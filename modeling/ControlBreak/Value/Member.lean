import ControlBreak.Value.Manual

/-!
# Members of values

All values of a kind have members in common: functions of the kind, functions
behind the operators of the host, the kind itself, and what the host says about
it. A field may name any of them, and then it has a value, though mostly one that
can only be passed on.

The names are those of the host. They are kept by kind, in one text for each
sort of members; `member?` looks among those of a value, its own parts apart.
-/

namespace ControlBreak

/-- The names of members, by sort, with blanks between them. Those of things stand
    with the host's words for the things. -/
structure Members where
  functions : String := ""
  operators : String := ""
  methods : String := ""
  definitions : String := ""
  things : List (String × String) := []

namespace Members

/-- The members of all values. -/
def universal : Members where
  functions := "__dir__ __format__ __getstate__ __init_subclass__ __new__ __reduce__ " ++
    "__reduce_ex__ __sizeof__ __subclasshook__"
  operators := "__delattr__ __eq__ __ge__ __getattribute__ __gt__ __hash__ __init__ __le__ " ++
    "__lt__ __ne__ __repr__ __setattr__ __str__"

/-- The operators of all numbers. -/
def numeric : String :=
  "__abs__ __add__ __bool__ __divmod__ __float__ __floordiv__ __int__ __mod__ __mul__ __neg__ " ++
    "__pos__ __pow__ __radd__ __rdivmod__ __rfloordiv__ __rmod__ __rmul__ __rpow__ __rsub__ " ++
    "__rtruediv__ __sub__ __truediv__"

/-- The operators of all sequences. -/
def sequence : String :=
  "__add__ __contains__ __getitem__ __iter__ __len__ __mul__ __rmul__"

/-- The functions of texts and of byte strings. -/
def textual : String :=
  "__getnewargs__ capitalize center count endswith expandtabs find index isalnum isalpha " ++
    "isascii isdigit islower isspace istitle isupper join ljust lower lstrip maketrans " ++
    "partition removeprefix removesuffix replace rfind rindex rjust rpartition rsplit rstrip " ++
    "split splitlines startswith strip swapcase title translate upper zfill"

def ofNothing : Members where
  operators := "__bool__"

def ofInteger : Members where
  functions := "__ceil__ __floor__ __getnewargs__ __round__ __trunc__ as_integer_ratio " ++
    "bit_count bit_length conjugate from_bytes to_bytes"
  operators := numeric ++ " __and__ __index__ __invert__ __lshift__ __or__ __rand__ __rlshift__ " ++
    "__ror__ __rrshift__ __rshift__ __rxor__ __xor__"

def ofFloat : Members where
  functions := "__ceil__ __floor__ __getformat__ __getnewargs__ __round__ __trunc__ " ++
    "as_integer_ratio conjugate fromhex hex is_integer"
  operators := numeric

def ofDecimal : Members where
  functions := "__ceil__ __complex__ __copy__ __deepcopy__ __floor__ __round__ __trunc__ " ++
    "adjusted as_integer_ratio as_tuple canonical compare compare_signal compare_total " ++
    "compare_total_mag conjugate copy_abs copy_negate copy_sign exp fma from_float is_canonical " ++
    "is_finite is_infinite is_nan is_normal is_qnan is_signed is_snan is_subnormal is_zero ln " ++
    "log10 logb logical_and logical_invert logical_or logical_xor max max_mag min min_mag " ++
    "next_minus next_plus next_toward normalize number_class quantize radix remainder_near " ++
    "rotate same_quantum scaleb shift sqrt to_eng_string to_integral to_integral_exact " ++
    "to_integral_value"
  operators := numeric

def ofFraction : Members where
  methods := numeric ++ " __ceil__ __complex__ __copy__ __deepcopy__ __eq__ __floor__ __ge__ " ++
    "__gt__ __hash__ __le__ __lt__ __reduce__ __repr__ __round__ __str__ __trunc__ _add _div " ++
    "_divmod _floordiv _mod _mul _operator_fallbacks _richcmp _sub as_integer_ratio " ++
    "conjugate from_decimal from_float limit_denominator"
  definitions := "__new__"
  things := [("__abstractmethods__", "frozenset"), ("_abc_impl", "_abc_data")]

def ofText : Members where
  functions := textual ++ " casefold encode format format_map isdecimal isidentifier isnumeric " ++
    "isprintable"
  operators := sequence ++ " __mod__ __rmod__"

def ofBytes : Members where
  functions := textual ++ " __bytes__ decode fromhex hex"
  operators := sequence ++ " __mod__ __rmod__"

def ofList : Members where
  functions := "__class_getitem__ __getitem__ __reversed__ append clear copy count extend index " ++
    "insert pop remove reverse sort"
  operators := "__add__ __contains__ __delitem__ __iadd__ __imul__ __iter__ __len__ __mul__ " ++
    "__rmul__ __setitem__"

def ofTuple : Members where
  functions := "__class_getitem__ __getnewargs__ count index"
  operators := sequence

def ofRow : Members where
  functions := "__class_getitem__ count index"
  operators := sequence
  methods := "__getnewargs__ __repr__ _asdict _make _replace"
  definitions := "__new__"

def ofDate : Members where
  functions := "ctime fromisocalendar fromisoformat fromordinal fromtimestamp isocalendar " ++
    "isoformat isoweekday replace strftime timetuple today toordinal weekday"
  operators := "__add__ __radd__ __rsub__ __sub__"

def ofTime : Members where
  functions := "dst fromisoformat isoformat replace strftime tzname utcoffset"

def ofMoment : Members where
  functions := ofDate.functions ++ " astimezone combine date dst now strptime time timestamp " ++
    "timetz tzname utcfromtimestamp utcnow utcoffset utctimetuple"
  operators := ofDate.operators

def ofDuration : Members where
  functions := "total_seconds"
  operators := "__abs__ __add__ __bool__ __divmod__ __floordiv__ __mod__ __mul__ __neg__ " ++
    "__pos__ __radd__ __rdivmod__ __rfloordiv__ __rmod__ __rmul__ __rsub__ __rtruediv__ __sub__ " ++
    "__truediv__"

def ofNode : Members where
  methods := "__eq__ __init__ __repr__"
  things := [("__annotations__", "dict"), ("__dataclass_fields__", "dict"),
    ("__dataclass_params__", "_DataclassParams")]

def ofObject : Members where
  methods := "__init__ __repr__"

def ofNative : Members where
  methods := "__call__ __init__ __repr__"

/-- The sort of the member with a given name. -/
def sort? (m : Members) (name : String) : Option MemberSort :=
  let isIn (names : String) : Bool := name != "" && (names.splitOn " ").contains name
  if isIn m.methods then some .method
  else if isIn m.definitions then some .definition
  else if isIn m.functions then some .function
  else if isIn m.operators then some .operator
  else (m.things.find? fun t => t.1 == name).map fun t => .thing t.2

end Members

namespace Value

/-- The members that a value has beside those of all values. -/
def kindMembers? : Value → Option Members
  | .nil => some .ofNothing
  | .bool _ => some .ofInteger
  | .num (.int _) => some .ofInteger
  | .num (.float _) => some .ofFloat
  | .num (.dec _) => some .ofDecimal
  | .num (.frac _) => some .ofFraction
  | .str _ => some .ofText
  | .list _ => some .ofList
  | .tuple _ => some .ofTuple
  | .bytes _ => some .ofBytes
  | .date _ => some .ofDate
  | .time _ => some .ofTime
  | .moment _ => some .ofMoment
  | .duration _ => some .ofDuration
  | .row _ => some .ofRow
  | .slots .. => some .ofObject
  | .priced .. => some .ofObject
  | .sealed .. => some .ofObject
  | .native .. => some .ofNative
  | v => if v.isNode then some .ofNode else none

/-- The kind of a value, as a member of it. -/
def kindMember (v : Value) : Value :=
  let family := match v with
    | .num (.frac _) => "ABCMeta"
    | _ => "type"
  .member (.kind family) v.kindPath v

/-- The member of a value with a given name. -/
def member? (v : Value) (name : String) : Option Value :=
  match name with
  | "__class__" => some v.kindMember
  | "__doc__" => some (v.kindText?.elim .nil .str)
  | "__module__" => v.kindHome?.map .str
  | name =>
    ((v.kindMembers?.bind (·.sort? name)).or (Members.universal.sort? name)).map (.member · name v)

end Value

end ControlBreak
