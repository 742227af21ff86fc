import HttpScenario.Number.Decimal

/-! JSON values. Numbers keep whether they were written as integers; objects keep the order in
which their fields were first inserted, and a field that is inserted again keeps its place. -/

namespace HttpScenario

abbrev Fields (α : Type) := List (String × α)

namespace Fields

variable {α : Type}

def get? (fields : Fields α) (name : String) : Option α :=
  (fields.find? fun entry => entry.1 == name).map Prod.snd

def contains (fields : Fields α) (name : String) : Bool :=
  fields.any fun entry => entry.1 == name

/-- Replaces the value in place, or adds the entry at the end. -/
def insert (fields : Fields α) (name : String) (value : α) : Fields α :=
  match fields with
  | [] => [(name, value)]
  | entry :: rest =>
    if entry.1 == name then (name, value) :: rest else entry :: insert rest name value

/-- Removes an entry; the last one takes its place. -/
def remove (fields : Fields α) (name : String) : Fields α :=
  match fields.findIdx? fun entry => entry.1 == name with
  | none => fields
  | some i =>
    match fields.getLast? with
    | none => fields
    | some final => (fields.set i final).dropLast

def merge (fields others : Fields α) : Fields α :=
  others.foldl (fun acc entry => acc.insert entry.1 entry.2) fields

def ofList (entries : List (String × α)) : Fields α := merge [] entries

def names (fields : Fields α) : List String := fields.map Prod.fst

theorem sizeOf_lt_of_get? [SizeOf α] {fields : Fields α} {name : String} {value : α}
    (h : fields.get? name = some value) : sizeOf value < sizeOf fields := by
  obtain ⟨entry, hfind, rfl⟩ := Option.map_eq_some_iff.mp h
  have hmem := List.sizeOf_lt_of_mem (List.mem_of_find?_eq_some hfind)
  obtain ⟨n, v⟩ := entry
  simp only [Prod.mk.sizeOf_spec] at hmem
  simp only
  omega

end Fields

inductive Number
  | int (n : Int)
  | double (x : Double)
deriving DecidableEq

namespace Number

def toDouble : Number → Double
  | int n => Double.ofInt n
  | double x => x

/-- Equal as JSON values: an integer and a double always differ. -/
def same : Number → Number → Bool
  | int a, int b => a == b
  | double x, double y => x.sameValue y
  | _, _ => false

def toNat64? : Number → Option Nat
  | int n => if 0 ≤ n ∧ n < Nat.pow 2 64 then some n.toNat else none
  | double _ => none

def toInt64? : Number → Option Int
  | int n => if -Nat.pow 2 63 ≤ n ∧ n < Nat.pow 2 63 then some n else none
  | double _ => none

def text : Number → String
  | int n => toString n
  | double x => x.text .json

end Number

inductive Json
  | null
  | bool (b : Bool)
  | number (n : Number)
  | string (s : String)
  | array (items : List Json)
  | object (fields : List (String × Json))

namespace Json

instance : Inhabited Json := ⟨null⟩

def int (n : Int) : Json := number (.int n)

def nat (n : Nat) : Json := int n

def asString? : Json → Option String
  | string s => some s
  | _ => none

def asArray? : Json → Option (List Json)
  | array items => some items
  | _ => none

def asObject? : Json → Option (Fields Json)
  | object fields => some fields
  | _ => none

def asBool? : Json → Option Bool
  | bool b => some b
  | _ => none

def asNat64? : Json → Option Nat
  | number n => n.toNat64?
  | _ => none

def asDouble? : Json → Option Double
  | number n => some n.toDouble
  | _ => none

def isNull : Json → Bool
  | null => true
  | _ => false

def field? (value : Json) (name : String) : Option Json :=
  match value with
  | object fields => Fields.get? fields name
  | _ => none

theorem sizeOf_lt_of_field? {value part : Json} {name : String}
    (h : value.field? name = some part) : sizeOf part < sizeOf value := by
  cases value <;> simp only [field?, reduceCtorEq] at h
  have := Fields.sizeOf_lt_of_get? h
  simp only [object.sizeOf_spec]
  omega

mutual

/-- Equality of JSON values: the order of an object's fields does not count. -/
def same : Json → Json → Bool
  | null, null => true
  | bool a, bool b => a == b
  | number a, number b => a.same b
  | string a, string b => a == b
  | array as, array bs => sameItems as bs
  | object as, object bs => as.length == bs.length && fieldsWithin as bs
  | _, _ => false

def sameItems : List Json → List Json → Bool
  | [], [] => true
  | a :: as, b :: bs => a.same b && sameItems as bs
  | _, _ => false

def fieldsWithin : List (String × Json) → List (String × Json) → Bool
  | [], _ => true
  | (name, a) :: as, bs =>
    (match Fields.get? bs name with
      | some b => a.same b
      | none => false) && fieldsWithin as bs

end

end Json

end HttpScenario
