/-
This file lists the members of what holds other values: sequences, records, the catalogues of
members that kinds have, and kinds that were given a key.
-/

import IgniterLint.Reflection.Member

namespace IgniterLint.Reflection.Member

/-- The members of sequences. -/
def ofSequences : List Member :=
  [maker, operator "__repr__", operator "__hash__", operator "__getattribute__", operator "__lt__",
   operator "__le__", operator "__eq__", operator "__ne__", operator "__gt__", operator "__ge__",
   operator "__iter__", operator "__len__", operator "__getitem__", operator "__add__",
   operator "__mul__", operator "__rmul__", operator "__contains__",
   operation "__getnewargs__" (some "($self, /)") none,
   operation "index" (some "($self, value, start=0, stop=sys.maxsize, /)") (lines [
     "Return first index of value.", "", "Raises ValueError if the value is not present."]),
   operation "count" (some "($self, value, /)") (lines ["Return number of occurrences of value."]),
   shared "__class_getitem__" none (lines ["See PEP 585"]),
   note "__doc__" (lines [
     "Built-in immutable sequence.", "",
     "If no argument is given, the constructor returns an empty tuple.",
     "If iterable is specified the tuple is initialized from iterable's items.", "",
     "If the argument is a tuple, the return value is the same object."])]

/-- The members of records. -/
def ofRecords : List Member :=
  [maker, operator "__repr__", note "__hash__" none, operator "__getattribute__",
   operator "__lt__", operator "__le__", operator "__eq__", operator "__ne__", operator "__gt__",
   operator "__ge__", operator "__iter__", operator "__init__", operator "__or__",
   operator "__ror__", operator "__ior__", operator "__len__",
   operation "__getitem__" none (lines ["x.__getitem__(y) <==> x[y]"]), operator "__setitem__",
   operator "__delitem__",
   operation "__contains__" (some "($self, key, /)") (lines [
     "True if the dictionary has the specified key, else False."]),
   operation "__sizeof__" none (lines ["D.__sizeof__() -> size of D in memory, in bytes"]),
   operation "get" (some "($self, key, default=None, /)") (lines [
     "Return the value for key if key is in the dictionary, else default."]),
   operation "setdefault" (some "($self, key, default=None, /)") (lines [
     "Insert key with a value of default if key is not in the dictionary.", "",
     "Return the value for key if key is in the dictionary, else default."]),
   operation "pop" (some "($self, key, default=<unrepresentable>, /)") (lines [
     "D.pop(k[,d]) -> v, remove specified key and return the corresponding value.", "",
     "If the key is not found, return the default if given; otherwise,", "raise a KeyError."]),
   operation "popitem" (some "($self, /)") (lines [
     "Remove and return a (key, value) pair as a 2-tuple.", "",
     "Pairs are returned in LIFO (last-in, first-out) order.",
     "Raises KeyError if the dict is empty."]),
   operation "keys" none (lines ["D.keys() -> a set-like object providing a view on D's keys"]),
   operation "items" none (lines ["D.items() -> a set-like object providing a view on D's items"]),
   operation "values" none (lines ["D.values() -> an object providing a view on D's values"]),
   operation "update" none (lines [
     "D.update([E, ]**F) -> None.  Update D from dict/iterable E and F.",
     "If E is present and has a .keys() method, then does:  for k in E: D[k] = E[k]",
     "If E is present and lacks a .keys() method, then does:  for k, v in E: D[k] = v",
     "In either case, this is followed by: for k in F:  D[k] = F[k]"]),
   shared "fromkeys" (some "($type, iterable, value=None, /)") (lines [
     "Create a new dictionary with keys from iterable and values set to value."]),
   operation "clear" none (lines ["D.clear() -> None.  Remove all items from D."]),
   operation "copy" none (lines ["D.copy() -> a shallow copy of D"]),
   operation "__reversed__" (some "($self, /)") (lines [
     "Return a reverse iterator over the dict keys."]),
   shared "__class_getitem__" none (lines ["See PEP 585"]),
   note "__doc__" (lines [
     "dict() -> new empty dictionary",
     "dict(mapping) -> new dictionary initialized from a mapping object's",
     "    (key, value) pairs", "dict(iterable) -> new dictionary initialized as if via:",
     "    d = \x7b\x7d", "    for k, v in iterable:", "        d[k] = v",
     "dict(**kwargs) -> new dictionary initialized with the name=value pairs",
     "    in the keyword argument list.  For example:  dict(one=1, two=2)"])]

/-- The members of catalogues. -/
def ofCatalogues : List Member :=
  [maker, operator "__repr__", operator "__str__", operator "__getattribute__", operator "__lt__",
   operator "__le__", operator "__eq__", operator "__ne__", operator "__gt__", operator "__ge__",
   operator "__iter__", operator "__or__", operator "__ror__", operator "__ior__",
   operator "__len__", operator "__getitem__", operator "__contains__",
   operation "get" none (lines ["D.get(k[,d]) -> D[k] if k in D, else d.  d defaults to None."]),
   operation "keys" none (lines ["D.keys() -> a set-like object providing a view on D's keys"]),
   operation "values" none (lines ["D.values() -> an object providing a view on D's values"]),
   operation "items" none (lines ["D.items() -> a set-like object providing a view on D's items"]),
   operation "copy" none (lines ["D.copy() -> a shallow copy of D"]),
   shared "__class_getitem__" none (lines ["See PEP 585"]),
   operation "__reversed__" none (lines ["D.__reversed__() -> reverse iterator"]),
   note "__doc__" none, note "__hash__" none]

/-- The members of special kinds. -/
def ofSpecialKinds : List Member :=
  [maker, operator "__repr__", operator "__hash__", operator "__call__",
   operator "__getattribute__", operator "__lt__", operator "__le__", operator "__eq__",
   operator "__ne__", operator "__gt__", operator "__ge__", operator "__iter__", operator "__or__",
   operator "__ror__", operator "__getitem__", operation "__mro_entries__" none none,
   operation "__instancecheck__" none none, operation "__subclasscheck__" none none,
   operation "__reduce__" none none, operation "__dir__" none none, stored "__origin__" none,
   stored "__args__" none, stored "__unpacked__" none,
   computed "__parameters__" (lines ["Type variables in the GenericAlias."]),
   computed "__typing_unpacked_tuple_args__" none,
   note "__doc__" (lines [
     "Represent a PEP 585 generic type", "",
     "E.g. for t = list[int], t.__origin__ is list and t.__args__ is (int,)."])]

end IgniterLint.Reflection.Member
