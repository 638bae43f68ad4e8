import ControlBreak.Fault

/-!
# Operators of the host

Functions of the host, computed attributes and displayed averages use the host's
own operators, which do more than the arithmetic of reports: truth values count
as numbers, sequences are joined and repeated, dates are moved by durations.
-/

namespace ControlBreak

/-- An integer quotient, rounded half to even, for a nonzero divisor. -/
def roundedQuotient (a b : Int) : Int :=
  roundHalfEvenInt (if b < 0 then -a else a) b.natAbs

/-- A duration that the host accepts. -/
def checkedDuration (d : Duration) : Host Duration :=
  if d.isValid then .ok d else .error .overflow

namespace Value

/-- Members repeated so many times; not at all for a negative number. -/
def repeated {α : Type} (items : List α) (times : Int) : List α :=
  (List.replicate times.toNat items).flatten

/-- The sum of two values of the host. -/
def plus (v w : Value) : Host Value :=
  match v.number?, w.number? with
  | some a, some b => (hostNumber (a.apply .add b)).map .num
  | _, _ =>
    match v, w with
    | .str s, .str t => .ok (.str (s ++ t))
    | .list items, .list others => .ok (.list (items ++ others))
    | .bytes a, .bytes b => .ok (.bytes (a ++ b))
    | .date d, .duration u | .duration u, .date d =>
      (orFault .overflow (d.addDays? u.days)).map .date
    | .moment m, .duration u | .duration u, .moment m =>
      (orFault .overflow (m.add? u)).map .moment
    | .duration a, .duration b =>
      (checkedDuration ⟨a.microseconds + b.microseconds⟩).map .duration
    | _, _ =>
      match v.members?, w.members? with
      | some items, some others => .ok (.tuple (items ++ others))
      | _, _ => .error .unsuitable

/-- A duration times a number. -/
def durationTimes (d : Duration) : Number → Host Value
  | .int n => (checkedDuration ⟨d.microseconds * n⟩).map .duration
  | .float (.finite s m e) =>
    let (n, den) := Binary64.fraction s m e
    (checkedDuration ⟨roundedQuotient (d.microseconds * n) den⟩).map .duration
  | .float (.infinity _) => .error .overflow
  | .float (.nan _) => .error (.badValue "cannot convert NaN to integer ratio")
  | _ => .error .unsuitable

/-- The greatest number of members that a sequence could have by its number alone. -/
def maxLength : Int := 9223372036854775807

/-- The greatest number of members that there is room for. -/
def maxRoom : Int := 1099511627776

/-- Members repeated so many times, if they are not too many; `tooMany` is the fault
    of a number of members that is none. -/
def repeatChecked {α : Type} (tooMany : Fault) (items : List α) (times : Int) : Host (List α) :=
  if times < -maxLength - 1 ∨ maxLength < times then .error .overflow
  else if items.isEmpty ∨ times ≤ 0 then .ok []
  else if maxLength < items.length * times then .error tooMany
  else if maxRoom < items.length * times then .error .outOfMemory
  else .ok (repeated items times)

/-- A sequence, repeated. -/
def repeatTimes (v : Value) (times : Int) : Host Value :=
  match v with
  | .str s => (repeatChecked .overflow s.toList times).map fun cs => .str (String.ofList cs)
  | .list items => (repeatChecked .outOfMemory items times).map .list
  | .bytes b => (repeatChecked .overflow b times).map .bytes
  | v =>
    match v.members? with
    | some items => (repeatChecked .outOfMemory items times).map .tuple
    | none => .error .unsuitable

/-- The product of two values of the host. -/
def times (v w : Value) : Host Value :=
  match v.number?, w.number? with
  | some a, some b => (hostNumber (a.apply .mul b)).map .num
  | some (.int n), none =>
    match w with
    | .duration d => durationTimes d (.int n)
    | w => w.repeatTimes n
  | none, some (.int n) =>
    match v with
    | .duration d => durationTimes d (.int n)
    | v => v.repeatTimes n
  | some n, none =>
    match w with
    | .duration d => durationTimes d n
    | _ => .error .unsuitable
  | none, some n =>
    match v with
    | .duration d => durationTimes d n
    | _ => .error .unsuitable
  | none, none => .error .unsuitable

/-- The quotient of a value by a count. -/
def dividedBy (v : Value) (count : Int) : Host Value :=
  match v.number? with
  | some a => (hostNumber (a.apply .div (.int count))).map .num
  | none =>
    match v with
    | .duration d =>
      if count = 0 then .error .zeroDivisor
      else (checkedDuration ⟨roundedQuotient d.microseconds count⟩).map .duration
    | _ => .error .unsuitable

end Value

end ControlBreak
