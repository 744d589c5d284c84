import EndpointManager.Model.Dict
import EndpointManager.Model.Dumps

/-!
# The endpoint's environment

The child of `cmd_start_endpoint` builds the environment it passes to `os.execvpe`
(lines 855-886 and 952-957): `PATH` from fixed directories and the interpreter's, then
whatever the administrator's `user_environment.yaml` maps, then `HOME` and `USER` from
the user's passwd entry, and last `PWD` and `CWD`, the directory it changed to: the file's
`PWD`, or the user's home if that is a directory, or `/`. Any exception while reading and
loading the file is caught, and the environment keeps only `PATH`.

`yaml.safe_load` is an input (`Yaml` is what it returns, floats, dates and timestamps left
out; a `!!binary` scalar is `bytes`), and so is the `repr` that `str()` gives a list, a
mapping or a `bytes` value. The keys of a loaded mapping can be any hashable scalar; as
`dict` keys `True` and `False` are the `int`s `1` and `0`, so they are `EnvKey.int`, and a
`bytes` key is never equal to a `str` key.

* `envFileItems`: what the `try` of lines 859-875 adds, or nothing when it raises or
  finds nothing to add.
* `childEnviron`: `HOME`, `USER`, the working directory, `PWD` and `CWD`.
* `envRejected`: whether `os.execvpe` raises for the environment before any `execve(2)`:
  `get_exec_path` for a `bytes` key `b'PATH'` beside the `str` key `'PATH'`, or the
  conversion of a key that is neither `str` nor `bytes`, an empty key, a key with `=`
  after its first byte, or a NUL.
* `envp` and `getenv`: the `KEY=value` array `execve(2)` gets, in the order of the
  `dict`, with `str` keys encoded as UTF-8, and the variable a program finds in it: the
  first entry of that name, as `getenv(3)` and Python's `os.environ` take it.
-/

namespace EndpointManager

/-- A value `yaml.safe_load` returns. -/
inductive Yaml where
  | null
  | bool (b : Bool)
  | int (n : Int)
  | str (s : String)
  | bytes (b : List UInt8)
  | seq (xs : List Yaml)
  | map (kvs : List (Yaml × Yaml))
  deriving Repr, Inhabited

/-- A hashable key of a loaded mapping, as a `dict` compares it. -/
inductive EnvKey where
  | str (s : String)
  | bytes (b : List UInt8)
  | int (n : Int)
  | null
  deriving DecidableEq, Repr

namespace Yaml

/-- `bool(v)`, which `if env_data:` tests. -/
def truthy : Yaml → Bool
  | null => false
  | bool b => b
  | int n => n != 0
  | str s => !s.isEmpty
  | bytes b => !b.isEmpty
  | seq xs => !xs.isEmpty
  | map kvs => !kvs.isEmpty

/-- The key a `dict` stores for `v`; a list or a mapping is unhashable. -/
def toKey : Yaml → Option EnvKey
  | null => some .null
  | bool b => some (.int (if b then 1 else 0))
  | int n => some (.int n)
  | str s => some (.str s)
  | bytes b => some (.bytes b)
  | seq _ | map _ => none

/-- `str(v)`; `repr` is what it gives a list, a mapping or a `bytes` value. -/
def pyStr (repr : Yaml → String) : Yaml → String
  | null => "None"
  | bool b => if b then "True" else "False"
  | int n => toString n
  | str s => s
  | v@(bytes _) | v@(seq _) | v@(map _) => repr v

end Yaml

/-- The directories of `PATH` before the environment file (line 856). -/
def defaultPath (pybindir : String) : String :=
  ":".intercalate ["/usr/local/bin", "/usr/bin", "/bin", pybindir]

/-- One item of the comprehension: `d[k] = str(v)`, a `TypeError` for an unhashable
`k`. -/
def envItemsStep (repr : Yaml → String) (d : PyDict EnvKey String) (kv : Yaml × Yaml) :
    Except PyExc (PyDict EnvKey String) :=
  match kv.1.toKey with
  | some k => pure (d.setItem k (kv.2.pyStr repr))
  | none => throw .typeError

/-- `{k: str(v) for k, v in env_data.items()}` -/
def envItems (repr : Yaml → String) (kvs : List (Yaml × Yaml)) : Except PyExc (PyDict EnvKey String) :=
  kvs.foldlM (envItemsStep repr) PyDict.empty

/-- Lines 859-866: the pairs `env.update` adds, or `none` when the file does not exist,
is empty, or loads to a false value, and when `exists()`, `read_text()`,
`yaml.safe_load` or the comprehension raise (caught at line 868). `envFile` is what
`env_path.exists()` and `env_path.read_text()` give: the text, `none` for no file, or an
exception. A loaded value that is not a mapping has no `items()`. -/
def envFileItems (envFile : Except PyExc (Option String)) (safeLoad : String → Except PyExc Yaml)
    (repr : Yaml → String) : Option (PyDict EnvKey String) :=
  match envFile with
  | .error _ | .ok none => none
  | .ok (some envText) =>
    if envText.isEmpty then none
    else
      match safeLoad envText with
      | .error _ => none
      | .ok envData =>
        if !envData.truthy then none
        else
          match envData with
          | .map kvs =>
            match envItems repr kvs with
            | .ok items => some items
            | .error _ => none
          | _ => none

/-- Lines 855-875: `PATH`, updated with what the environment file adds. -/
def userEnvironment (pybindir : String) (envFile : Except PyExc (Option String))
    (safeLoad : String → Except PyExc Yaml) (repr : Yaml → String) : PyDict EnvKey String :=
  let env := PyDict.empty.setItem (.str "PATH") (defaultPath pybindir)
  match envFileItems envFile safeLoad repr with
  | some items => env.update items
  | none => env

/-- Lines 877-886 and 957: `env.update({"HOME": udir, "USER": uname})`, the working
directory `wd = env.get("PWD", udir)` with `udir` replaced by `/` when it is not a
directory, and then `env["PWD"] = wd` and `env["CWD"] = wd`. The environment `os.execvpe`
gets, and `wd`. -/
def childEnviron (env : PyDict EnvKey String) (udir uname : String) (isDir : String → Bool) :
    PyDict EnvKey String × String :=
  let env := (env.setItem (.str "HOME") udir).setItem (.str "USER") uname
  let udir := if isDir udir then udir else "/"
  let wd := (env.get? (.str "PWD")).getD udir
  ((env.setItem (.str "PWD") wd).setItem (.str "CWD") wd, wd)

/-- Whether `execve`'s conversion refuses key `k` whatever its value: a key that is
neither `str` nor `bytes` (`TypeError`), an empty key or one with `=` after its first
character, or a NUL (`ValueError`). -/
def EnvKey.refused : EnvKey → Bool
  | .str k => k.data.isEmpty || (k.data.drop 1).contains '=' || k.data.contains '\x00'
  | .bytes b => b.isEmpty || (b.drop 1).contains 61 || b.contains 0
  | .int _ | .null => true

/-- Whether `execve` converts the pair: a key it does not refuse, and no NUL in the
value. -/
def envEntryOk (kv : EnvKey × String) : Bool := !kv.1.refused && !kv.2.data.contains '\x00'

/-- `os.execvpe(..., env=env)` raises a `ValueError` or `TypeError` for `env` before it
tries any directory of `PATH`: `get_exec_path` finds both `'PATH'` and `b'PATH'`, or a
pair does not convert. -/
def envRejected (env : PyDict EnvKey String) : Bool :=
  ((env.get? (.str "PATH")).isSome && (env.get? (.bytes (utf8 "PATH"))).isSome) ||
    !env.pairs.all envEntryOk

/-- The name `execve` passes for key `k`: a `str` encoded as UTF-8, a `bytes` as it is. -/
def EnvKey.encode : EnvKey → Option (List UInt8)
  | .str s => some (utf8 s)
  | .bytes b => some b
  | .int _ | .null => none

/-- The `envp` array of an environment `execve` accepts, as names and values, in the
order of the `dict`. -/
def envp (env : PyDict EnvKey String) : List (List UInt8 × List UInt8) :=
  env.pairs.filterMap fun kv => kv.1.encode.map (·, utf8 kv.2)

/-- `getenv(name)` in the program `execve` starts: the value of the first entry of that
name. -/
def getenv (vars : List (List UInt8 × List UInt8)) (name : List UInt8) : Option (List UInt8) :=
  (vars.find? (·.1 == name)).map (·.2)

/-- The child's calls when `os.execvpe` also raises for a rejected `env`; its other
failures, such as no executable on `PATH`, stay with `raises`. -/
def envRaises (env : PyDict EnvKey String) (raises : String → Bool) (n : String) : Bool :=
  if n = "os.execvpe" then raises n || envRejected env else raises n

end EndpointManager
