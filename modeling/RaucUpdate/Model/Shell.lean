import RaucUpdate.Model.Manifest

/-!
# The metadata of a manifest as environment variables

`r_shell_from_manifest_meta` of `shell.c`, and the environments of the hook of a bundle and of the
handlers of a system, into which `utils.c` takes the variables over. The order of the hash tables is
a parameter.
-/

namespace RaucUpdate

open Library

section Shell

variable (order : MetaOrder)

def groupVariables (group : String) (kvs : Table String String) : List String :=
  match rPrepareEnvKey group with
  | .error _ => []
  | .ok envGroup =>
    (order.keys kvs).filterMap (fun key =>
      match rPrepareEnvKey key with
      | .error _ => none
      | .ok envKey =>
        (kvs.lookup key).map (fun value => "RAUC_META_" ++ envGroup ++ "_" ++ envKey ++
          "=" ++ value))

/-- `r_shell_from_manifest_meta` appends to the variables that are there. -/
def rShellFromManifestMeta (shellVars : List String) (manifest : RaucManifest) : List String :=
  shellVars ++ (order.labels manifest.metaTable).flatMap (fun group =>
    ((manifest.metaTable.lookup group).map (groupVariables order group)).getD [])

end Shell

section Environments

/-- `g_environ_setenv`, and `g_subprocess_launcher_setenv` for the environment of a launcher. -/
def environSetenv (overwrite : Bool) (envp : Table String String) (name value : String) :
    Table String String :=
  if overwrite then envp.set name value else envp.offer name value

/-- The variable and the value around the first `=`; the process ends with a message if there is
none. -/
def splitVariable (element : String) : Except String (String × String) :=
  match splitAtMost '=' 2 element with
  | [name, value] => .ok (name, value)
  | _ => .error ("missing '=' in '" ++ element ++ "'")

/-- `r_environ_setenv_ptr_array`, and `r_subprocess_launcher_setenv_ptr_array` for a launcher. -/
def rEnvironSetenvPtrArray (overwrite : Bool) : Table String String → List String →
    Except String (Table String String)
  | envp, [] => .ok envp
  | envp, element :: rest => do
    let (name, value) ← splitVariable element
    rEnvironSetenvPtrArray overwrite (environSetenv overwrite envp name value) rest

variable (order : MetaOrder) (envp : Table String String) (manifest : RaucManifest)

/-- The metadata in the environment of `run_bundle_hook`, which has replaced earlier variables. -/
def hookEnvironment : Except String (Table String String) :=
  rEnvironSetenvPtrArray true envp (rShellFromManifestMeta order [] manifest)

/-- The metadata in the environment of `prepare_environment`, which keeps earlier variables. -/
def handlerEnvironment : Except String (Table String String) :=
  rEnvironSetenvPtrArray false envp (rShellFromManifestMeta order [] manifest)

end Environments

end RaucUpdate
