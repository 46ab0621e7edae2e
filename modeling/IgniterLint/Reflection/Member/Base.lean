/-
This file lists the members that all values have, those of nothing, and those of the kinds
themselves.
-/

import IgniterLint.Reflection.Member

namespace IgniterLint.Reflection.Member

/-- The members of every value. -/
def ofBase : List Member :=
  [maker, operator "__repr__", operator "__hash__", operator "__str__",
   operator "__getattribute__", operator "__setattr__", operator "__delattr__", operator "__lt__",
   operator "__le__", operator "__eq__", operator "__ne__", operator "__gt__", operator "__ge__",
   operator "__init__",
   operation "__reduce_ex__" (some "($self, protocol, /)") (lines ["Helper for pickle."]),
   operation "__reduce__" (some "($self, /)") (lines ["Helper for pickle."]),
   operation "__getstate__" (some "($self, /)") (lines ["Helper for pickle."]),
   shared "__subclasshook__" none (lines [
     "Abstract classes can override this to customize issubclass().", "",
     "This is invoked early on by abc.ABCMeta.__subclasscheck__().",
     "It should return True, False or NotImplemented.  If it returns",
     "NotImplemented, the normal algorithm is used.  Otherwise, it",
     "overrides the normal algorithm (and the outcome is cached).", ""]),
   shared "__init_subclass__" none (lines [
     "This method is called when a class is subclassed.", "",
     "The default implementation does nothing. It may be", "overridden to extend subclasses.",
     ""]),
   operation "__format__" (some "($self, format_spec, /)") (lines ["Default object formatter."]),
   operation "__sizeof__" (some "($self, /)") (lines ["Size of object in memory, in bytes."]),
   operation "__dir__" (some "($self, /)") (lines ["Default dir() implementation."]),
   computed "__class__" (lines ["the object's class"]),
   note "__doc__" (lines [
     "The base class of the class hierarchy.", "",
     "When called, it accepts no arguments and returns a new featureless",
     "instance that has no instance attributes and cannot be given any.", ""])]

/-- The members of nothing. -/
def ofNothing : List Member :=
  [maker, operator "__repr__", operator "__bool__", note "__doc__" none]

/-- The members of kinds. -/
def ofKinds : List Member :=
  [maker, operator "__repr__", operator "__call__", operator "__getattribute__",
   operator "__setattr__", operator "__delattr__", operator "__init__", operator "__or__",
   operator "__ror__",
   operation "mro" (some "($self, /)") (lines ["Return a type's method resolution order."]),
   operation "__subclasses__" (some "($self, /)") (lines [
     "Return a list of immediate subclasses."]),
   shared "__prepare__" none (lines [
     "__prepare__() -> dict", "used to create the namespace for the class statement"]),
   operation "__instancecheck__" (some "($self, instance, /)") (lines [
     "Check if an object is an instance."]),
   operation "__subclasscheck__" (some "($self, subclass, /)") (lines [
     "Check if a class is a subclass."]),
   operation "__dir__" (some "($self, /)") (lines [
     "Specialized __dir__ implementation for types."]),
   operation "__sizeof__" (some "($self, /)") (lines [
     "Return memory consumption of the type object."]),
   stored "__basicsize__" none, stored "__itemsize__" none, stored "__flags__" none,
   stored "__weakrefoffset__" none, stored "__base__" none, stored "__dictoffset__" none,
   stored "__mro__" none, computed "__name__" none, computed "__qualname__" none,
   computed "__bases__" none, computed "__module__" none, computed "__abstractmethods__" none,
   computed "__dict__" none, computed "__doc__" none, computed "__text_signature__" none,
   computed "__annotations__" none]

end IgniterLint.Reflection.Member
