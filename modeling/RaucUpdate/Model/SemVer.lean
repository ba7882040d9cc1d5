import RaucUpdate.Model.Slot

/-!
# Versions

`r_semver_parse` and `r_semver_less_equal` of `utils.c`.
-/

namespace RaucUpdate

open Library

/-- `g_ascii_string_to_unsigned` in base 10 for 64 bits: digits only, neither white space nor a
sign. -/
def asciiStringToUnsigned (str : String) : Except GError Nat :=
  let result := takeDigits 10 0 str.toList
  if str = "" then .error ⟨.numberInvalid, "Empty string is not a number"⟩
  else if result.2 ≠ [] then .error ⟨.numberInvalid, "“" ++ str ++ "” is not an unsigned number"⟩
  else if 2 ^ 64 ≤ result.1 then
    .error ⟨.numberOutOfBounds, "Number “" ++ str ++ "” is out of bounds [0, 18446744073709551615]"⟩
  else .ok result.1

structure SemVer where
  major : Nat
  minor : Nat
  patch : Nat
  preRelease : Option String
  build : Option String
  deriving DecidableEq

/-- The text before the last separator, and the text after it if there is one. -/
def cutAtLast (sep : Char) (str : String) : String × Option String :=
  if sep ∈ str.toList then
    (String.ofList (str.toList.rdropWhile (· != sep)).dropLast,
      some (String.ofList (str.toList.rtakeWhile (· != sep))))
  else (str, none)

def parseCoreComponent (part : String) : Except GError Nat :=
  match asciiStringToUnsigned part with
  | .ok n => .ok n
  | .error e =>
    .error (e.prefixed ("Failed to parse core version component '" ++ part ++ "' as uint: "))

/-- Components of the core that are missing are zero. -/
def rSemverParse (version : String) : Except GError SemVer := do
  let (rest, build) := cutAtLast '+' version
  let (core, preRelease) := cutAtLast '-' rest
  let parts := splitAtMost '.' 3 core
  if parts = [] then
    .error ⟨.utilsSemverParse, "Failed to parse semantic version '" ++ version ++
      "', 'version core' has no components."⟩
  else
    let numbers ← parts.mapM parseCoreComponent
    return ⟨numbers.getD 0 0, numbers.getD 1 0, numbers.getD 2 0, preRelease, build⟩

/-- Whether the first number that differs is smaller, if there is such a number. -/
def compareCore : List (Nat × Nat) → Option Bool
  | [] => none
  | (a, b) :: rest => if a < b then some true else if b < a then some false else compareCore rest

/-- Numeric fields have lower precedence than others. -/
def comparePreFields : List String → List String → Bool
  | [], _ => true
  | _ :: _, [] => false
  | a :: as, b :: bs =>
    match (asciiStringToUnsigned a).toOption, (asciiStringToUnsigned b).toOption with
    | some m, some n => if m < n then true else if n < m then false else comparePreFields as bs
    | some _, none => true
    | none, some _ => false
    | none, none => if a < b then true else if b < a then false else comparePreFields as bs

def comparePreRelease : Option String → Option String → Bool
  | none, none => true
  | none, some _ => false
  | some _, none => true
  | some a, some b => comparePreFields (splitFields '.' a) (splitFields '.' b)

def SemVer.lessEqual (a b : SemVer) : Bool :=
  (compareCore [(a.major, b.major), (a.minor, b.minor), (a.patch, b.patch)]).getD
    (comparePreRelease a.preRelease b.preRelease)

def parseForComparison (label version : String) : Except GError SemVer :=
  match rSemverParse version with
  | .ok v => .ok v
  | .error e =>
    .error (e.prefixed ("Failed to parse semantic version " ++ label ++ " for comparison: "))

def rSemverLessEqual (versionA versionB : String) : Except GError Bool := do
  let a ← parseForComparison "A" versionA
  let b ← parseForComparison "B" versionB
  return a.lessEqual b

/-- A comparison whose error is ignored by the caller counts as false. -/
def semverAtMost (versionA versionB : String) : Bool :=
  (rSemverLessEqual versionA versionB).toOption.getD false

end RaucUpdate
