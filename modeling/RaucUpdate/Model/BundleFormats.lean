import RaucUpdate.Model.InstallBundle

/-!
# The allowed bundle formats

`parse_bundle_formats` of `config_file.c`. The mask is a `guint` with one bit for each format.
-/

namespace RaucUpdate

open Library

def bundleFormatNamed (token : String) : Option BundleFormat :=
  if token = "plain" then some .plain
  else if token = "verity" then some .verity
  else if token = "crypt" then some .crypt
  else none

/-- The loop variables: the mask so far, and whether a plain or a prefixed token was seen. -/
structure FormatScan where
  imask : BitVec 32
  set : Bool := false
  modify : Bool := false

/-- A sign in front of the name of a format, and the name. -/
def cutFormatSign (token : String) : Option Char × String :=
  match token.toList with
  | '-' :: rest => (some '-', String.ofList rest)
  | '+' :: rest => (some '+', String.ofList rest)
  | _ => (none, token)

def scanFormat (scan : FormatScan) (sign : Option Char) (format : BundleFormat) : FormatScan :=
  let bit := 1#32 <<< formatBit format
  match sign with
  | some '-' => { scan with imask := scan.imask &&& ~~~bit, modify := true }
  | some _ => { scan with imask := scan.imask ||| bit, modify := true }
  | none => { scan with imask := (if scan.set then scan.imask else 0) ||| bit, set := true }

def scanFormats : FormatScan → List String → Except GError FormatScan
  | scan, [] => .ok scan
  | scan, token :: rest =>
    if token = "" then scanFormats scan rest
    else
      let (sign, name) := cutFormatSign token
      match bundleFormatNamed name with
      | none => .error ⟨.configInvalidFormat, "Invalid bundle format '" ++ name ++ "'"⟩
      | some format => scanFormats (scanFormat scan sign format) rest

def checkedFormats (mask : BitVec 32) (config : String) : Except GError (BitVec 32) := do
  let scan ← scanFormats { imask := mask } (splitFields ' ' config)
  if scan.set ∧ scan.modify then
    .error ⟨.configInvalidFormat, "Invalid bundle format configuration '" ++ config ++
      "', cannot combine fixed value with modification (+/-)"⟩
  else if scan.imask = 0 then
    .error ⟨.configInvalidFormat, "Invalid bundle format configuration '" ++ config ++
      "', no remaining formats"⟩
  else return scan.imask

/-- The result, and the mask of the caller afterwards. -/
def parseBundleFormats (mask : BitVec 32) (config : String) : Except GError Unit × BitVec 32 :=
  match checkedFormats mask config with
  | .error e => (.error e, mask)
  | .ok imask => (.ok (), imask)

end RaucUpdate
