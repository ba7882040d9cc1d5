import RaucUpdate.Model.Slot

/-!
# Reading a key file by consuming it

The helpers of `utils.c` that the configuration and manifest parsers share. A value that has been
read is removed from the key file, so that unknown keys are what is left at the end.
-/

namespace RaucUpdate

open Library

abbrev ParseProg : Type → Type := Prog KeyFile GError

/-- `g_str_has_prefix`. -/
def hasPrefix (pre s : String) : Bool := pre.toList.isPrefixOf s.toList

section KeyFileAccess

def keyFileErrorMessage : KeyFileError → String
  | .groupNotFound group => "Key file does not have group “" ++ group ++ "”"
  | .keyNotFound group key =>
    "Key file does not have key “" ++ key ++ "” in group “" ++ group ++ "”"
  | .invalidValue group key => "Key file contains key “" ++ key ++ "” in group “" ++ group ++
      "” which has a value that cannot be interpreted."

def ofKeyFileError (e : KeyFileError) : GError := ⟨.keyFile e, keyFileErrorMessage e⟩

/-- `key_file_consume_string`: the result is handed to the caller, who may ignore the error. -/
def keyFileConsumeString (group key : String) : ParseProg (Except GError String) := do
  let keyFile ← Prog.read
  match keyFile.getString group key with
  | .error e => return .error (ofKeyFileError e)
  | .ok result =>
    Prog.modify (fun f => f.removeKey group key)
    if result = "" then
      return .error ⟨.keyFileParse, "Missing value for key '" ++ key ++ "'"⟩
    else
      return .ok result

/-- A string whose absence is no error. -/
def consumeOptional (group key : String) : ParseProg (Option String) := do
  let result ← keyFileConsumeString group key
  return result.toOption

/-- A string whose absence is reported. -/
def consumeRequired (group key : String) : ParseProg String := do
  match ← keyFileConsumeString group key with
  | .error e => Prog.fail e
  | .ok result => return result

/-- A boolean with a default for the missing key; the key is removed afterwards. -/
def consumeBoolean (group key : String) (default : Bool) : ParseProg Bool := do
  let keyFile ← Prog.read
  let result ← match keyFile.getBoolean group key with
    | .ok b => pure b
    | .error (.keyNotFound _ _) => pure default
    | .error e => Prog.fail (ofKeyFileError e)
  Prog.modify (fun f => f.removeKey group key)
  return result

/-- A list whose absence is no error; the key is removed afterwards. -/
def consumeStringList (group key : String) : ParseProg (Option (List String)) := do
  let keyFile ← Prog.read
  let result := (keyFile.getStringList group key).toOption
  Prog.modify (fun f => f.removeKey group key)
  return result

def ofExcept {σ α : Type} : Except GError α → Prog σ GError α
  | .ok a => pure a
  | .error e => Prog.fail e

/-- The text of a string that is stored if it is there. -/
def stringText (s : Option String) : Option String := s.map KeyFile.encodeString

/-- The digest that is stored for a checksum: only one of type SHA256. -/
def recordedDigest (checksum : RaucChecksum) : Option String :=
  if checksum.type = .sha256 then checksum.digest else none

def checkRemainingKeys (group : String) : ParseProg Unit := do
  let keyFile ← Prog.read
  match keyFile.keysOf group with
  | [] => return ()
  | key :: _ =>
    Prog.fail ⟨.keyFileParse, "Invalid key '" ++ key ++ "' in group '[" ++ group ++ "]'"⟩

def checkRemainingGroups : ParseProg Unit := do
  let keyFile ← Prog.read
  match keyFile.groups with
  | [] => return ()
  | group :: _ => Prog.fail ⟨.keyFileParse, "Invalid group '[" ++ group ++ "]'"⟩

def valueCheckTabWhitespace (str : String) : Except GError Unit :=
  if '\t' ∈ str.toList ∨ ' ' ∈ str.toList then
    .error ⟨.keyFileParse, "The value '" ++ str ++ "' can not contain tab or whitespace characters"⟩
  else .ok ()

/-- A number with a binary suffix, as a 64-bit number. -/
def binarySuffixed (string : String) : Nat :=
  let result := strtoull 10 string
  let shift := match result.rest with
    | 'k' :: _ | 'K' :: _ => 10
    | 'm' :: _ | 'M' :: _ => 20
    | 'g' :: _ | 'G' :: _ => 30
    | 't' :: _ | 'T' :: _ => 40
    | _ => 0
  result.value * 2 ^ shift % 2 ^ 64

def keyFileConsumeBinarySuffixedString (group key : String) : ParseProg (Except GError Nat) := do
  let string ← keyFileConsumeString group key
  return string.map binarySuffixed

/-- `r_prepare_env_key`: the name of an environment variable for a key. -/
def rPrepareEnvKey (key : String) : Except GError String :=
  match key.toList.find? (fun c => !(c.isAlphanum || c == '_' || c == '-')) with
  | some c => .error ⟨.utilsInvalidEnvKey, "Character '" ++ String.singleton c ++
      "' is unsuitable for environment variables"⟩
  | none => .ok (String.ofList (key.toList.map (fun c => if c = '-' then '_' else c.toUpper)))

end KeyFileAccess

section Paths

def isAbsolute (path : String) : Bool := "/".toList.isPrefixOf path.toList

/-- `g_build_filename` for two elements: exactly one separator between them. -/
def buildFilename (first second : String) : String :=
  String.ofList (first.toList.rdropWhile (· == '/') ++ '/' :: second.toList.dropWhile (· == '/'))

/-- `g_path_get_dirname`. -/
def pathGetDirname (path : String) : String :=
  if '/' ∈ path.toList then
    let dir := (path.toList.rdropWhile (· != '/')).rdropWhile (· == '/')
    if dir = [] then "/" else String.ofList dir
  else "."

/-- `resolve_path` for a path that is there; the current directory is a parameter. -/
def resolvePath (cwd : String) (basefile : Option String) (path : String) : String :=
  if "pkcs11:".toList.isPrefixOf path.toList then path
  else if isAbsolute path then path
  else
    match basefile with
    | none => buildFilename cwd path
    | some basefile =>
      let dir := pathGetDirname basefile
      if isAbsolute dir then buildFilename dir path else buildFilename (buildFilename cwd dir) path

end Paths

section Returns

variable {σ α β : Type} {Q : α → Prop} {R : β → Prop}

/-- What holds of every value a program returns. -/
def Returns (p : Prog σ GError α) (Q : α → Prop) : Prop :=
  Prog.Triple (fun _ => True) p (fun a _ => Q a) (fun _ _ => True)

lemma returns_bind {p : Prog σ GError α} {f : α → Prog σ GError β} (hp : Returns p Q)
    (hf : ∀ a, Q a → Returns (f a) R) : Returns (p >>= f) R :=
  Prog.triple_bind hp (fun a w (hw : Q a) => hf a hw w trivial)

lemma returns_pure {a : α} (h : Q a) : Returns (pure a : Prog σ GError α) Q :=
  Prog.triple_pure (fun _ _ => h)

lemma returns_fail {e : GError} : Returns (Prog.fail e : Prog σ GError α) Q :=
  Prog.triple_exit (fun _ _ => trivial)

lemma returns_consequence {Q' : α → Prop} {p : Prog σ GError α} (h : Returns p Q)
    (hQ : ∀ a, Q a → Q' a) :
    Returns p Q' :=
  Prog.triple_consequence h (fun _ hs => hs) (fun a _ ha => hQ a ha) (fun _ _ hx => hx)

lemma returns_mapError {f : GError → GError} {p : Prog σ GError α} (h : Returns p Q) :
    Returns (Prog.mapError f p) Q :=
  Prog.triple_mapError h (fun _ _ _ => trivial)

lemma returns_ofExcept (r : Except GError α) :
    Returns (ofExcept r : Prog σ GError α) (fun a => r = .ok a) := by
  cases r with
  | error e => exact returns_fail
  | ok a => exact returns_pure rfl

lemma returns_any (p : Prog σ GError α) : Returns p (fun _ => True) := by
  intro w _
  unfold Prog.Holds
  cases (p w).1 <;> trivial

/-- A string that was consumed is not empty. -/
lemma keyFileConsumeString_returns (group key : String) :
    Returns (keyFileConsumeString group key) (fun r => ∀ s, r = .ok s → s ≠ "") := by
  refine returns_bind (returns_any _) (fun keyFile _ => ?_)
  cases keyFile.getString group key with
  | error e => exact returns_pure (fun s h => absurd h (by simp))
  | ok result =>
    refine returns_bind (returns_any _) (fun _ _ => ?_)
    split_ifs with hempty
    · exact returns_pure (fun s h => absurd h (by simp))
    · refine returns_pure (fun s h => ?_)
      obtain rfl := Except.ok.inj h
      exact hempty

lemma consumeOptional_returns (group key : String) :
    Returns (consumeOptional group key) (· ≠ some "") := by
  refine returns_bind (keyFileConsumeString_returns group key) (fun r hr => returns_pure ?_)
  cases r with
  | error e => simp [Except.toOption]
  | ok s => simpa [Except.toOption] using hr s rfl

end Returns

end RaucUpdate
