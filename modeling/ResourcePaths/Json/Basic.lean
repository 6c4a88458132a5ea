/-!
# JSON

The value that a JSON text writes, together with the places at which a text stops being JSON.
A text with a fault in it is still read as far as it goes: a `flaw` stands where the fault is,
so that whoever walks through the value meets the faults of the text in their order, between
the faults of shape that the walk itself finds.
-/

namespace ResourcePaths
namespace Json

/-- Why a text is refused. -/
inductive Fault where
  /-- The text is not JSON. -/
  | malformed
  /-- The text ends too early. -/
  | cutShort
  /-- The text is JSON, but of another shape than asked for. -/
  | wrongShape
  /-- An array has more items than the record that it writes has fields. -/
  | surplus
  deriving DecidableEq, Repr

end Json

/-- A JSON value, as far as its text can be read. -/
inductive Json where
  | null
  /-- `true` or `false`. -/
  | bool (value : Bool)
  /-- An integer of sixty-four bits, signed or not. -/
  | integer (value : Int)
  /-- Any other number, as it is written. -/
  | decimal (text : String)
  | string (value : String)
  /-- An array. -/
  | array (items : List Json)
  /-- An object: its members in their order.  The name of a member may be a flaw, too. -/
  | object (members : List (Except Json.Fault String × Json))
  /-- A place that cannot be read.  Who has to read it fails with the first fault; who only
  skips it fails with the second one, or passes where there is none. -/
  | flaw (reading : Json.Fault) (skipping : Option Json.Fault)

namespace Json

/-- A member of an object. -/
abbrev Member := Except Fault String × Json

instance : Inhabited Json := ⟨null⟩

/-- A place where the text breaks off, for whoever comes there. -/
def broken (fault : Fault) : Json := flaw fault (some fault)

mutual

/-- The fault met by skipping a value, if there is one. -/
def skipFault? : Json → Option Fault
  | array items => skipItems? items
  | object members => skipMembers? members
  | flaw _ skipping => skipping
  | _ => none

/-- The first fault met by skipping values. -/
def skipItems? : List Json → Option Fault
  | [] => none
  | item :: rest => item.skipFault?.or (skipItems? rest)

/-- The first fault met by skipping members. -/
def skipMembers? : List (Except Fault String × Json) → Option Fault
  | [] => none
  | (_, value) :: rest => value.skipFault?.or (skipMembers? rest)

end

mutual

/-- The fault met by reading a value of any shape, if there is one. -/
def readFault? : Json → Option Fault
  | array items => readItems? items
  | object members => readMembers? members
  | flaw reading _ => some reading
  | _ => none

/-- The first fault met by reading values. -/
def readItems? : List Json → Option Fault
  | [] => none
  | item :: rest => item.readFault?.or (readItems? rest)

/-- The first fault met by reading members, names and all. -/
def readMembers? : List (Except Fault String × Json) → Option Fault
  | [] => none
  | (.error fault, _) :: _ => some fault
  | (.ok _, value) :: rest => value.readFault?.or (readMembers? rest)

end

/-- Passes where there is no fault. -/
def pass : Option Fault → Except Fault Unit
  | none => .ok ()
  | some fault => .error fault

/-- The fault of a value that has another shape than asked for. -/
def mismatch {α : Type} : Json → Except Fault α
  | flaw reading _ => .error reading
  | _ => .error .wrongShape

/-- The value as a string. -/
def asString : Json → Except Fault String
  | string value => .ok value
  | other => other.mismatch

/-- The value as a truth value. -/
def asBool : Json → Except Fault Bool
  | bool value => .ok value
  | other => other.mismatch

/-- The value as an integer in a range. -/
def asInteger (inRange : Int → Bool) : Json → Except Fault Int
  | integer value => if inRange value then .ok value else .error .wrongShape
  | other => other.mismatch

/-- The value as a list. -/
def asList {α : Type} (item : Json → Except Fault α) : Json → Except Fault (List α)
  | array items => items.mapM item
  | other => other.mismatch

/-- The value, or nothing for `null`. -/
def asOption {α : Type} (read : Json → Except Fault α) : Json → Except Fault (Option α)
  | null => .ok none
  | other => (read other).map some

/-- The object with these members. -/
def ofMembers (members : List (String × Json)) : Json :=
  object (members.map fun (name, value) => (.ok name, value))

/-- The first member with a name. -/
def member? (name : String) : List Member → Option Json
  | [] => none
  | (.ok found, value) :: rest => if found = name then some value else member? name rest
  | (.error _, _) :: rest => member? name rest

theorem sizeOf_member? {name : String} {members : List Member} {value : Json}
    (h : member? name members = some value) : sizeOf value < sizeOf members := by
  induction members with
  | nil => simp [member?] at h
  | cons member rest ih =>
    obtain ⟨key, found⟩ := member
    simp only [List.cons.sizeOf_spec, Prod.mk.sizeOf_spec]
    cases key with
    | error fault =>
      have := ih h
      omega
    | ok key =>
      simp only [member?] at h
      split at h
      · simp only [Option.some.injEq] at h
        subst h
        omega
      · have := ih h
        omega

/-- The member of an object with a name. -/
def get? (json : Json) (name : String) : Option Json :=
  match json with
  | object members => member? name members
  | _ => none

end Json
end ResourcePaths
