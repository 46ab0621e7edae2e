/-
This file lists the members that members themselves have, on their own and bound to a value.
-/

import IgniterLint.Reflection.Member

namespace IgniterLint.Reflection.Member

/-- The members of bound operations. -/
def ofBoundOperations : List Member :=
  [operator "__repr__", operator "__hash__", operator "__call__", operator "__getattribute__",
   operator "__lt__", operator "__le__", operator "__eq__", operator "__ne__", operator "__gt__",
   operator "__ge__", operation "__reduce__" none none, stored "__module__" none,
   computed "__doc__" none, computed "__name__" none, computed "__qualname__" none,
   computed "__self__" none, computed "__text_signature__" none]

/-- The members of bound operators. -/
def ofBoundOperators : List Member :=
  [operator "__repr__", operator "__hash__", operator "__call__", operator "__getattribute__",
   operator "__lt__", operator "__le__", operator "__eq__", operator "__ne__", operator "__gt__",
   operator "__ge__", operation "__reduce__" none none, stored "__self__" none,
   computed "__objclass__" none, computed "__name__" none, computed "__qualname__" none,
   computed "__doc__" none, computed "__text_signature__" none]

/-- The members of operators. -/
def ofOperators : List Member :=
  [operator "__repr__", operator "__call__", operator "__getattribute__", operator "__get__",
   operation "__reduce__" none none, stored "__objclass__" none, stored "__name__" none,
   computed "__doc__" none, computed "__qualname__" none, computed "__text_signature__" none]

/-- The members of operations. -/
def ofOperations : List Member :=
  [operator "__repr__", operator "__call__", operator "__getattribute__", operator "__get__",
   operation "__reduce__" none none, stored "__objclass__" none, stored "__name__" none,
   computed "__doc__" none, computed "__qualname__" none, computed "__text_signature__" none]

/-- The members of computed parts. -/
def ofComputedParts : List Member :=
  [operator "__repr__", operator "__getattribute__", operator "__get__", operator "__set__",
   operator "__delete__", stored "__objclass__" none, stored "__name__" none,
   computed "__doc__" none, computed "__qualname__" none]

/-- The members of stored parts. -/
def ofStoredParts : List Member :=
  [operator "__repr__", operator "__getattribute__", operator "__get__", operator "__set__",
   operator "__delete__", operation "__reduce__" none none, stored "__objclass__" none,
   stored "__name__" none, computed "__doc__" none, computed "__qualname__" none]

/-- The members of shared operations. -/
def ofSharedOperations : List Member :=
  [operator "__repr__", operator "__call__", operator "__getattribute__", operator "__get__",
   stored "__objclass__" none, stored "__name__" none, computed "__doc__" none,
   computed "__qualname__" none, computed "__text_signature__" none]

/-- The members of detached operations. -/
def ofDetachedOperations : List Member :=
  [maker, operator "__repr__", operator "__call__", operator "__get__", operator "__init__",
   stored "__func__" none, stored "__wrapped__" none, computed "__isabstractmethod__" none,
   computed "__dict__" none,
   note "__doc__" (lines [
     "staticmethod(function) -> method", "", "Convert a function to be a static method.", "",
     "A static method does not receive an implicit first argument.",
     "To declare a static method, use this idiom:", "", "     class C:",
     "         @staticmethod", "         def f(arg1, arg2, ...):", "             ...", "",
     "It can be called either on the class (e.g. C.f()) or on an instance",
     "(e.g. C().f()). Both the class and the instance are ignored, and",
     "neither is passed implicitly as the first argument to the method.", "",
     "Static methods in Python are similar to those found in Java or C++.",
     "For a more advanced concept, see the classmethod builtin."])]

end IgniterLint.Reflection.Member
