/-
This file says what a member of a value is. A template may look into its value, and every kind of
value lists members by name: operators, operations, parts, and a few plain notes. A member carries a
signature and a description, which a template may ask for as well.

Operators mean the same for every kind, so their signatures and descriptions are listed here once.
The members of the kinds stand in modules of their own, in the order in which a catalogue shows
them.
-/

namespace IgniterLint.Reflection

/-- The sorts of members, which decide what looking one up gives. -/
inductive MemberSort where
  /-- an operator, such as comparing or adding -/
  | operator
  /-- an operation on a value -/
  | operation
  /-- an operation on the kind as a whole -/
  | shared
  /-- the operation that makes the values of the kind -/
  | maker
  /-- an operation that is given neither a value nor the kind -/
  | detached
  /-- a part that is worked out when it is asked for -/
  | computed
  /-- a part that is kept in the value -/
  | stored
  /-- a text, or nothing, that stands in the list itself -/
  | note
deriving DecidableEq, Repr

/-- A member as its kind lists it. The content of a note is its description. -/
structure Member where
  sort : MemberSort
  name : String
  signature : Option String
  description : Option String
deriving DecidableEq, Repr

namespace Member

/-- A description of several lines. -/
def lines (texts : List String) : Option String := some ("\n".intercalate texts)

/-- An operation of this name, signature and description. -/
def operation (name : String) (signature description : Option String) : Member :=
  ⟨.operation, name, signature, description⟩

/-- An operation on the kind as a whole. -/
def shared (name : String) (signature description : Option String) : Member :=
  ⟨.shared, name, signature, description⟩

/-- An operation that is given neither a value nor the kind. -/
def detached (name : String) (signature description : Option String) : Member :=
  ⟨.detached, name, signature, description⟩

/-- The operation that makes the values of a kind. -/
def maker : Member :=
  ⟨.maker, "__new__", some "($type, *args, **kwargs)",
    some "Create and return a new object.  See help(type) for accurate signature."⟩

/-- A part that is worked out when it is asked for. -/
def computed (name : String) (description : Option String) : Member :=
  ⟨.computed, name, none, description⟩

/-- A part that is kept in the value. -/
def stored (name : String) (description : Option String) : Member :=
  ⟨.stored, name, none, description⟩

/-- A note with this content. -/
def note (name : String) (content : Option String) : Member := ⟨.note, name, none, content⟩

/-- The signature and the description of each operator. -/
def operatorSheet : List (String × String × String) :=
  [("__abs__", "($self, /)", "abs(self)"),
   ("__add__", "($self, value, /)", "Return self+value."),
   ("__and__", "($self, value, /)", "Return self&value."),
   ("__bool__", "($self, /)", "True if self else False"),
   ("__call__", "($self, /, *args, **kwargs)", "Call self as a function."),
   ("__contains__", "($self, key, /)", "Return key in self."),
   ("__delattr__", "($self, name, /)", "Implement delattr(self, name)."),
   ("__delete__", "($self, instance, /)", "Delete an attribute of instance."),
   ("__delitem__", "($self, key, /)", "Delete self[key]."),
   ("__divmod__", "($self, value, /)", "Return divmod(self, value)."),
   ("__eq__", "($self, value, /)", "Return self==value."),
   ("__float__", "($self, /)", "float(self)"),
   ("__floordiv__", "($self, value, /)", "Return self//value."),
   ("__ge__", "($self, value, /)", "Return self>=value."),
   ("__get__", "($self, instance, owner=None, /)",
      "Return an attribute of instance, which is of type owner."),
   ("__getattribute__", "($self, name, /)", "Return getattr(self, name)."),
   ("__getitem__", "($self, key, /)", "Return self[key]."),
   ("__gt__", "($self, value, /)", "Return self>value."),
   ("__hash__", "($self, /)", "Return hash(self)."),
   ("__index__", "($self, /)",
      "Return self converted to an integer, if self is suitable for use as an index into a list."),
   ("__init__", "($self, /, *args, **kwargs)",
      "Initialize self.  See help(type(self)) for accurate signature."),
   ("__int__", "($self, /)", "int(self)"),
   ("__invert__", "($self, /)", "~self"),
   ("__ior__", "($self, value, /)", "Return self|=value."),
   ("__iter__", "($self, /)", "Implement iter(self)."),
   ("__le__", "($self, value, /)", "Return self<=value."),
   ("__len__", "($self, /)", "Return len(self)."),
   ("__lshift__", "($self, value, /)", "Return self<<value."),
   ("__lt__", "($self, value, /)", "Return self<value."),
   ("__mod__", "($self, value, /)", "Return self%value."),
   ("__mul__", "($self, value, /)", "Return self*value."),
   ("__ne__", "($self, value, /)", "Return self!=value."),
   ("__neg__", "($self, /)", "-self"),
   ("__or__", "($self, value, /)", "Return self|value."),
   ("__pos__", "($self, /)", "+self"),
   ("__pow__", "($self, value, mod=None, /)", "Return pow(self, value, mod)."),
   ("__radd__", "($self, value, /)", "Return value+self."),
   ("__rand__", "($self, value, /)", "Return value&self."),
   ("__rdivmod__", "($self, value, /)", "Return divmod(value, self)."),
   ("__repr__", "($self, /)", "Return repr(self)."),
   ("__rfloordiv__", "($self, value, /)", "Return value//self."),
   ("__rlshift__", "($self, value, /)", "Return value<<self."),
   ("__rmod__", "($self, value, /)", "Return value%self."),
   ("__rmul__", "($self, value, /)", "Return value*self."),
   ("__ror__", "($self, value, /)", "Return value|self."),
   ("__rpow__", "($self, value, mod=None, /)", "Return pow(value, self, mod)."),
   ("__rrshift__", "($self, value, /)", "Return value>>self."),
   ("__rshift__", "($self, value, /)", "Return self>>value."),
   ("__rsub__", "($self, value, /)", "Return value-self."),
   ("__rtruediv__", "($self, value, /)", "Return value/self."),
   ("__rxor__", "($self, value, /)", "Return value^self."),
   ("__set__", "($self, instance, value, /)", "Set an attribute of instance to value."),
   ("__setattr__", "($self, name, value, /)", "Implement setattr(self, name, value)."),
   ("__setitem__", "($self, key, value, /)", "Set self[key] to value."),
   ("__str__", "($self, /)", "Return str(self)."),
   ("__sub__", "($self, value, /)", "Return self-value."),
   ("__truediv__", "($self, value, /)", "Return self/value."),
   ("__xor__", "($self, value, /)", "Return self^value.")]

/-- The operator of this name. -/
def operator (name : String) : Member :=
  ⟨.operator, name, (operatorSheet.lookup name).map Prod.fst,
    (operatorSheet.lookup name).map Prod.snd⟩

end Member

end IgniterLint.Reflection
