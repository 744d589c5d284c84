import EndpointManager.Model.Child
import EndpointManager.Model.Environ

/-!
# What the endpoint's environment holds

Whatever `user_environment.yaml` holds and however loading it goes, the `dict` the child
passes to `os.execvpe` maps the `str` keys `HOME` and `USER` to the user's passwd entry,
`PWD` and `CWD` both to the directory the child changed to, `PATH` to the file's or the
fixed default, and every other key exactly as the file mapped it (`endpoint_environment`).

A `bytes` key is another key of that `dict`. A file that maps `!!binary SE9NRQ==` (the
bytes `HOME`) keeps that key ahead of the `str` key the child adds afterwards, and
`execve(2)` passes both to the endpoint in that order: the endpoint reads the file's
value (`binary_key_shadows_child_env`). The same holds for `USER`, `PWD` and `CWD`.

The `try` around the file catches what reading and loading it raise, not what the loaded
mapping holds. A mapping with a key `execve` refuses (`1: x`, `true: y`, `~: z`, an empty
or `=`-bearing key) or with the bytes key `PATH` loads, passes the comprehension, and
stays in the environment until `os.execvpe` raises: a child whose other calls all return
then exits with `83` (`86` when it changes its ids), and no endpoint of any user starts
(`refused_env_key_exits`).

Floats are not in `Yaml`, so none of this covers a file with a float key or value.
-/

namespace EndpointManager

open PyDict

/-! ## The keys the child sets -/

/-- `HOME` and `USER` from the passwd entry, `PWD` and `CWD` the working directory, which
is the environment's `PWD` if it has one; every other key as it was. -/
theorem childEnviron_spec (env : PyDict EnvKey String) (udir uname : String) (isDir : String → Bool) :
    (childEnviron env udir uname isDir).1.get? (.str "HOME") = some udir ∧
    (childEnviron env udir uname isDir).1.get? (.str "USER") = some uname ∧
    (childEnviron env udir uname isDir).1.get? (.str "PWD") = some (childEnviron env udir uname isDir).2 ∧
    (childEnviron env udir uname isDir).1.get? (.str "CWD") = some (childEnviron env udir uname isDir).2 ∧
    (childEnviron env udir uname isDir).2 =
      (env.get? (.str "PWD")).getD (if isDir udir then udir else "/") ∧
    ∀ k, k ≠ .str "HOME" → k ≠ .str "USER" → k ≠ .str "PWD" → k ≠ .str "CWD" →
      (childEnviron env udir uname isDir).1.get? k = env.get? k := by
  refine ⟨?_, ?_, ?_, ?_, ?_, fun k h₁ h₂ h₃ h₄ => ?_⟩ <;>
    simp [childEnviron, get?_setItem, *]

/-- The environment before `HOME` and `USER`: the file's pairs over the default `PATH`. -/
theorem userEnvironment_get? (pybindir : String) (envFile : Except PyExc (Option String))
    (safeLoad : String → Except PyExc Yaml) (repr : Yaml → String) (k : EnvKey) :
    (userEnvironment pybindir envFile safeLoad repr).get? k =
      ((envFileItems envFile safeLoad repr).bind (·.get? k)).or
        (if k = .str "PATH" then some (defaultPath pybindir) else none) := by
  unfold userEnvironment
  cases envFileItems envFile safeLoad repr <;> simp [get?_update, get?_setItem]

/-- The endpoint's whole environment, for every content of `user_environment.yaml` and
every outcome of reading and loading it: `HOME`, `USER`, `PWD` and `CWD` set by the
child, `PATH` from the file or the default, every other key from the file. -/
theorem endpoint_environment (pybindir : String) (envFile : Except PyExc (Option String))
    (safeLoad : String → Except PyExc Yaml) (repr : Yaml → String) (udir uname : String)
    (isDir : String → Bool) :
    let items := envFileItems envFile safeLoad repr
    let r := childEnviron (userEnvironment pybindir envFile safeLoad repr) udir uname isDir
    r.1.get? (.str "HOME") = some udir ∧ r.1.get? (.str "USER") = some uname ∧
    r.1.get? (.str "PWD") = some r.2 ∧ r.1.get? (.str "CWD") = some r.2 ∧
    r.2 = (items.bind (·.get? (.str "PWD"))).getD (if isDir udir then udir else "/") ∧
    r.1.get? (.str "PATH") = some ((items.bind (·.get? (.str "PATH"))).getD (defaultPath pybindir)) ∧
    ∀ k, k ≠ .str "PATH" → k ≠ .str "HOME" → k ≠ .str "USER" → k ≠ .str "PWD" →
      k ≠ .str "CWD" → r.1.get? k = items.bind (·.get? k) := by
  obtain ⟨hh, hu, hp, hc, hwd, hrest⟩ :=
    childEnviron_spec (userEnvironment pybindir envFile safeLoad repr) udir uname isDir
  refine ⟨hh, hu, hp, hc, ?_, ?_, fun k h₀ h₁ h₂ h₃ h₄ => ?_⟩
  · rw [hwd, userEnvironment_get?]
    cases (envFileItems envFile safeLoad repr).bind (·.get? (.str "PWD")) <;> simp
  · rw [hrest _ (by decide) (by decide) (by decide) (by decide), userEnvironment_get?]
    cases (envFileItems envFile safeLoad repr).bind (·.get? (.str "PATH")) <;> simp
  · rw [hrest k h₁ h₂ h₃ h₄, userEnvironment_get?, if_neg h₀, Option.or_none]

/-- A file that maps `HOME` keeps its place in the environment but not its value. -/
example : (childEnviron (userEnvironment "/opt/venv/bin" (.ok (some "HOME: /tmp"))
    (fun _ => .ok (.map [(.str "HOME", .str "/tmp")])) fun _ => "") "/home/u" "u" fun _ => true).1.pairs =
    [(.str "PATH", "/usr/local/bin:/usr/bin:/bin:/opt/venv/bin"), (.str "HOME", "/home/u"),
      (.str "USER", "u"), (.str "PWD", "/home/u"), (.str "CWD", "/home/u")] := by
  decide

/-! ## A key `execve` refuses -/

/-- With every key hashable, the comprehension returns, and keeps every key it met. -/
theorem envItems_foldlM_ok (repr : Yaml → String) :
    ∀ (kvs : List (Yaml × Yaml)) (d : PyDict EnvKey String), (∀ p ∈ kvs, (p.1.toKey).isSome) →
      ∃ items, kvs.foldlM (envItemsStep repr) d = .ok items ∧ (∀ k ∈ d.keys, k ∈ items.keys) ∧
        ∀ p ∈ kvs, ∀ k, p.1.toKey = some k → k ∈ items.keys
  | [], d, _ => ⟨d, rfl, fun _ hk => hk, fun _ hp => absurd hp (List.not_mem_nil _)⟩
  | p :: kvs, d, h => by
    obtain ⟨k₀, hk₀⟩ := Option.isSome_iff_exists.1 (h p (List.mem_cons_self _ _))
    obtain ⟨items, hfold, hkeep, hmem⟩ := envItems_foldlM_ok repr kvs (d.setItem k₀ (p.2.pyStr repr))
      fun q hq => h q (List.mem_cons_of_mem _ hq)
    refine ⟨items, ?_, fun k hk => hkeep k (mem_keys_setItem.2 (.inr hk)), fun q hq k hqk => ?_⟩
    · simp only [List.foldlM_cons, envItemsStep, hk₀]
      exact hfold
    · rcases List.mem_cons.1 hq with rfl | hq
      · rw [hk₀] at hqk
        cases hqk
        exact hkeep _ (mem_keys_setItem.2 (.inl rfl))
      · exact hmem q hq k hqk

/-- A key `execve` refuses fails the conversion, whatever its value. -/
theorem envRejected_of_get? {env : PyDict EnvKey String} {k : EnvKey} {v : String}
    (h : env.get? k = some v) (hk : k.refused = true) : envRejected env = true := by
  have hmem := get?_eq_some.1 h
  simp only [envRejected, Bool.or_eq_true, Bool.not_eq_true', List.all_eq_false]
  exact .inr ⟨(k, v), hmem, by simp [envEntryOk, hk]⟩

/-- `get_exec_path` refuses an environment with both `'PATH'` and `b'PATH'`. -/
theorem envRejected_of_path {env : PyDict EnvKey String} (hs : (env.get? (.str "PATH")).isSome)
    (hb : (env.get? (.bytes (utf8 "PATH"))).isSome) : envRejected env = true := by
  simp [envRejected, hs, hb]

/-- A child whose other calls all return, with an environment `os.execvpe` raises for,
exits from the `os.execvpe` group: `83`, or `86` when it changes its ids. -/
theorem childEnd_envRejected {env : PyDict EnvKey String} {changeIds : Bool} {raises : String → Bool}
    (hrej : envRejected env = true) (hcalls : ∀ n ∈ callsOf (childPipeline changeIds), raises n = false) :
    childEnd changeIds (envRaises env raises) = .exit (if changeIds then 86 else 83) := by
  have hexec : "os.execvpe" ∉ callsOf (childPipeline changeIds) := by cases changeIds <;> decide
  have hrun : runSteps (envRaises env raises) (childPipeline changeIds) 70 =
      .ok (70 + bumps (childPipeline changeIds)) :=
    runSteps_eq_ok.2 ⟨fun n hn => by
      rw [envRaises, if_neg fun e : n = "os.execvpe" => hexec (e ▸ hn), hcalls n hn], rfl⟩
  simp only [childEnd, hrun, envRaises, if_true, hrej, Bool.or_true, bumps_childPipeline]
  cases changeIds <;> rfl

/-- A `user_environment.yaml` that loads to a mapping of hashable keys, one of them a key
`execve` refuses or the bytes `PATH`, passes the file's `try`; `os.execvpe` then raises, so
a child whose other calls return exits with `83` (`86` when it changes its ids), whatever
the user. -/
theorem refused_env_key_exits {text : String} {safeLoad : String → Except PyExc Yaml}
    {repr : Yaml → String} {kvs : List (Yaml × Yaml)} {kv : Yaml × Yaml} {k : EnvKey}
    (htext : text ≠ "") (hload : safeLoad text = .ok (.map kvs))
    (hhash : ∀ p ∈ kvs, (p.1.toKey).isSome) (hkv : kv ∈ kvs) (hk : kv.1.toKey = some k)
    (hbad : k.refused = true ∨ k = .bytes (utf8 "PATH"))
    (pybindir udir uname : String) (isDir : String → Bool) {changeIds : Bool}
    {raises : String → Bool} (hcalls : ∀ n ∈ callsOf (childPipeline changeIds), raises n = false) :
    childEnd changeIds (envRaises (childEnviron (userEnvironment pybindir (.ok (some text)) safeLoad repr)
      udir uname isDir).1 raises) = .exit (if changeIds then 86 else 83) := by
  obtain ⟨items, hitems, -, hmem⟩ := envItems_foldlM_ok repr kvs PyDict.empty hhash
  have hne : kvs ≠ [] := List.ne_nil_of_mem hkv
  have hte : text.isEmpty = false := by
    cases h : text.isEmpty
    · rfl
    · exact absurd ((String.isEmpty_iff _).1 h) htext
  have hfile : envFileItems (.ok (some text)) safeLoad repr = some items := by
    simp [envFileItems, hte, hload, Yaml.truthy, hne, envItems, hitems]
  obtain ⟨v, hv⟩ := mem_keys.1 (hmem kv hkv k hk)
  have hks : ∀ s, s = "PATH" ∨ s = "HOME" ∨ s = "USER" ∨ s = "PWD" ∨ s = "CWD" → k ≠ .str s := by
    rintro s hs rfl
    rcases hbad with h | h
    · rcases hs with rfl | rfl | rfl | rfl | rfl <;> revert h <;> decide
    · cases h
  obtain ⟨-, -, -, -, -, hpath, hrest⟩ :=
    endpoint_environment pybindir (.ok (some text)) safeLoad repr udir uname isDir
  have hget := hrest k (hks _ (by simp)) (hks _ (by simp)) (hks _ (by simp)) (hks _ (by simp))
    (hks _ (by simp))
  rw [hfile, Option.some_bind, get?_eq_some.2 hv] at hget
  have hrej : envRejected (childEnviron (userEnvironment pybindir (.ok (some text)) safeLoad repr)
      udir uname isDir).1 = true := by
    rcases hbad with h | rfl
    · exact envRejected_of_get? hget h
    · exact envRejected_of_path (by rw [hpath]; rfl) (by rw [hget]; rfl)
  exact childEnd_envRejected hrej hcalls

/-- A one-line file `!!binary UEFUSA==: /tmp/bin`, the bytes key `PATH`, in the configuration
directory: the child of a manager that needs no id change exits with `83`. -/
theorem refused_env_key_exits_binary_path :
    childEnd false (envRaises (childEnviron (userEnvironment "/opt/venv/bin"
      (.ok (some "!!binary UEFUSA==: /tmp/bin"))
      (fun _ => .ok (.map [(.bytes (utf8 "PATH"), .str "/tmp/bin")])) fun _ => "") "/home/u" "u"
      fun _ => true).1 fun _ => false) = .exit 83 :=
  refused_env_key_exits (by decide) rfl (by decide) (List.mem_singleton_self _)
    (show (Yaml.bytes (utf8 "PATH")).toKey = some (.bytes (utf8 "PATH")) from rfl) (.inr rfl)
    _ _ _ _ fun _ _ => rfl

/-! ## What the endpoint reads

`getenv` takes the first entry of a name. A key of the `dict` is in `envp` where it was
first set, so the order of the keys decides which of a `str` key and a `bytes` key of the
same name the endpoint sees. -/

/-- No key of `d` has the name `name` in `envp`. -/
def NoneNamed (d : PyDict EnvKey String) (name : List UInt8) : Prop :=
  ∀ p ∈ d.pairs, p.1.encode ≠ some name

/-- The first key of `d` with the name `name` in `envp` maps to `v`. -/
def FirstNamed (d : PyDict EnvKey String) (name : List UInt8) (v : String) : Prop :=
  ∃ pre k post, d.pairs = pre ++ (k, v) :: post ∧ k.encode = some name ∧
    ∀ p ∈ pre, p.1.encode ≠ some name

section Named

variable {d : PyDict EnvKey String} {name : List UInt8} {v : String}

theorem getenv_envp_of_firstNamed (h : FirstNamed d name v) : getenv (envp d) name = some (utf8 v) := by
  obtain ⟨pre, k, post, hp, hk, hpre⟩ := h
  unfold getenv envp
  rw [hp]
  clear hp
  induction pre with
  | nil => simp [hk]
  | cons p pre ih =>
    have hp := hpre p (List.mem_cons_self _ _)
    rw [← ih fun q hq => hpre q (List.mem_cons_of_mem _ hq)]
    cases he : p.1.encode with
    | none => simp [he]
    | some b =>
      have hb : (b == name) = false := by
        rw [he] at hp
        simpa using fun e => hp (congrArg some e)
      simp [he, hb]

theorem NoneNamed.not_mem_keys (h : NoneNamed d name) {k : EnvKey} (hk : k.encode = some name) :
    k ∉ d.keys := fun hm => by
  obtain ⟨v, hv⟩ := mem_keys.1 hm
  exact h (k, v) hv hk

theorem NoneNamed.setItem (h : NoneNamed d name) {k : EnvKey} (hk : k.encode ≠ some name)
    (v' : String) : NoneNamed (d.setItem k v') name := by
  rintro ⟨k', v''⟩ hp
  rcases mem_setItem.1 hp with ⟨rfl, -⟩ | ⟨-, hp⟩
  · exact hk
  · exact h _ hp

theorem NoneNamed.setItem_first (h : NoneNamed d name) {k : EnvKey} (hk : k.encode = some name) :
    FirstNamed (d.setItem k v) name v :=
  ⟨d.pairs, k, [], setItem_pairs_of_not_mem (h.not_mem_keys hk), hk, h⟩

/-- A key of another name, or a new key, keeps the first entry of a name. -/
theorem FirstNamed.setItem (h : FirstNamed d name v) {k : EnvKey}
    (hk : k.encode ≠ some name ∨ k ∉ d.keys) (v' : String) : FirstNamed (d.setItem k v') name v := by
  obtain ⟨pre, k₀, post, hp, hk₀, hpre⟩ := h
  by_cases hmem : k ∈ d.keys
  · have hne : k₀ ≠ k := fun e => (hk.resolve_right (not_not.2 hmem)) (e ▸ hk₀)
    refine ⟨pre.map fun p => if p.1 = k then (k, v') else p, k₀,
      post.map fun p => if p.1 = k then (k, v') else p, ?_, hk₀, ?_⟩
    · simp only [PyDict.setItem, dif_pos hmem, hp, List.map_append, List.map_cons, if_neg hne]
    · intro p hp'
      obtain ⟨q, hq, rfl⟩ := List.mem_map.1 hp'
      split
      · next he => rw [← he]; exact hpre q hq
      · exact hpre q hq
  · exact ⟨pre, k₀, post ++ [(k, v')], by rw [setItem_pairs_of_not_mem hmem, hp]; simp, hk₀, hpre⟩

theorem NoneNamed.foldl {ps : List (EnvKey × String)} (h : NoneNamed d name)
    (hps : ∀ p ∈ ps, p.1.encode ≠ some name) :
    NoneNamed (ps.foldl (fun d p => d.setItem p.1 p.2) d) name := by
  induction ps generalizing d with
  | nil => exact h
  | cons p ps ih =>
    exact ih (h.setItem (hps p (List.mem_cons_self _ _)) _) fun q hq => hps q (List.mem_cons_of_mem _ hq)

theorem FirstNamed.foldl {ps : List (EnvKey × String)} (h : FirstNamed d name v)
    (hps : ∀ p ∈ ps, p.1.encode ≠ some name) :
    FirstNamed (ps.foldl (fun d p => d.setItem p.1 p.2) d) name v := by
  induction ps generalizing d with
  | nil => exact h
  | cons p ps ih =>
    exact ih (h.setItem (.inl (hps p (List.mem_cons_self _ _))) _)
      fun q hq => hps q (List.mem_cons_of_mem _ hq)

end Named

section Ascii

variable {s : String} (hs : Json.Ascii s.data)
include hs

/-- The only keys `execve` passes as the ASCII name `s` are `s` and `s` as bytes. -/
theorem encode_eq_utf8 {k : EnvKey} (h : k.encode = some (utf8 s)) :
    k = .str s ∨ k = .bytes (utf8 s) := by
  cases k with
  | str t => exact .inl (congrArg EnvKey.str (utf8_inj_ascii hs (Option.some.inj h)))
  | bytes b => exact .inr (congrArg EnvKey.bytes (Option.some.inj h))
  | int _ => cases h
  | null => cases h

/-- Setting a `str` key of another name, or setting `s` while the dict has no `s`, keeps
the first entry named `s`. -/
theorem FirstNamed.setItem_str {d : PyDict EnvKey String} {w : String}
    (h : FirstNamed d (utf8 s) w) (t : String) (hd : t = s → EnvKey.str s ∉ d.keys) (v' : String) :
    FirstNamed (d.setItem (.str t) v') (utf8 s) w := by
  refine h.setItem ?_ v'
  by_cases ht : t = s
  · subst ht
    exact .inr (hd rfl)
  · exact .inl fun he => ht (utf8_inj_ascii hs (Option.some.inj he))

/-- The file's pairs over the default `PATH`: a name other than `PATH` that the file gives
only as a `bytes` key is named first by the file's value. -/
theorem firstNamed_update {items : PyDict EnvKey String} {w : String} (pybindir : String)
    (hpath : s ≠ "PATH") (hb : items.get? (.bytes (utf8 s)) = some w)
    (hstr : items.get? (.str s) = none) :
    FirstNamed ((PyDict.empty.setItem (.str "PATH") (defaultPath pybindir)).update items) (utf8 s) w := by
  obtain ⟨pre, post, hsplit⟩ := List.mem_iff_append.1 (get?_eq_some.1 hb)
  have hout : ∀ p ∈ pre ++ post, p.1.encode ≠ some (utf8 s) := by
    rintro ⟨k, v⟩ hp he
    have hnd := items.nodup
    rw [hsplit, List.map_append, List.map_cons, List.nodup_middle, ← List.map_append,
      List.nodup_cons] at hnd
    rcases encode_eq_utf8 hs he with rfl | rfl
    · have hmem : (EnvKey.str s, v) ∈ items.pairs := by
        rw [hsplit]
        rcases List.mem_append.1 hp with h | h <;> simp [h]
      rw [get?_eq_some.2 hmem] at hstr
      cases hstr
    · exact hnd.1 (List.mem_map.2 ⟨_, hp, rfl⟩)
  have h₀ : NoneNamed (PyDict.empty.setItem (.str "PATH") (defaultPath pybindir)) (utf8 s) :=
    NoneNamed.setItem (fun p hp => absurd hp (List.not_mem_nil _))
      (fun he : (EnvKey.str "PATH").encode = some (utf8 s) =>
        hpath (utf8_inj_ascii hs (Option.some.inj he)).symm) _
  have h₁ := h₀.foldl fun p hp => hout p (List.mem_append_left _ hp)
  unfold PyDict.update
  rw [hsplit, List.foldl_append, List.foldl_cons]
  exact (h₁.setItem_first (show (EnvKey.bytes (utf8 s)).encode = some (utf8 s) from rfl)).foldl
    fun p hp => hout p (List.mem_append_right _ hp)

end Ascii

theorem not_mem_keys_setItem_str {d : PyDict EnvKey String} {s t v : String}
    (h : EnvKey.str s ∉ d.keys) (ht : t ≠ s) : EnvKey.str s ∉ (d.setItem (.str t) v).keys := by
  rw [mem_keys_setItem]
  rintro (he | hm)
  · exact ht (EnvKey.str.inj he).symm
  · exact h hm

/-- The child's four keys keep the first entry of one of their names when the environment
before them lacks that `str` key. -/
theorem FirstNamed.childEnviron {E : PyDict EnvKey String} {s w udir uname : String}
    {isDir : String → Bool} (h : FirstNamed E (utf8 s) w)
    (hs4 : s = "HOME" ∨ s = "USER" ∨ s = "PWD" ∨ s = "CWD") (hstr : E.get? (.str s) = none) :
    FirstNamed (childEnviron E udir uname isDir).1 (utf8 s) w := by
  have hs : Json.Ascii s.data := by rcases hs4 with rfl | rfl | rfl | rfl <;> decide
  have h₀ : EnvKey.str s ∉ E.keys := fun hm => by
    obtain ⟨v, hv⟩ := mem_keys.1 hm
    rw [get?_eq_some.2 hv] at hstr
    cases hstr
  have h₂ := (h.setItem_str hs "HOME" (fun _ => h₀) udir).setItem_str hs "USER"
    (fun ht => not_mem_keys_setItem_str h₀ (by rw [← ht]; decide)) uname
  simp only [EndpointManager.childEnviron]
  exact (h₂.setItem_str hs "PWD" (fun ht => not_mem_keys_setItem_str
    (not_mem_keys_setItem_str h₀ (by rw [← ht]; decide)) (by rw [← ht]; decide)) _).setItem_str hs "CWD"
    (fun ht => not_mem_keys_setItem_str (not_mem_keys_setItem_str (not_mem_keys_setItem_str h₀
      (by rw [← ht]; decide)) (by rw [← ht]; decide)) (by rw [← ht]; decide)) _

/-- A file that maps one of the names the child sets, `HOME`, `USER`, `PWD` or `CWD`, as a
`bytes` key only (`!!binary SE9NRQ==` for `HOME`) keeps that key ahead of the `str` key the
child adds: the `dict` maps the `str` key to the child's value, but the first entry of that
name in `envp`, the one the endpoint reads, carries the file's value. -/
theorem binary_key_shadows_child_env (pybindir : String) (envFile : Except PyExc (Option String))
    (safeLoad : String → Except PyExc Yaml) (repr : Yaml → String) (udir uname : String)
    (isDir : String → Bool) {s w : String} {items : PyDict EnvKey String}
    (hs4 : s = "HOME" ∨ s = "USER" ∨ s = "PWD" ∨ s = "CWD")
    (hitems : envFileItems envFile safeLoad repr = some items)
    (hb : items.get? (.bytes (utf8 s)) = some w) (hstr : items.get? (.str s) = none) :
    let r := childEnviron (userEnvironment pybindir envFile safeLoad repr) udir uname isDir
    r.1.get? (.str s) = some (if s = "HOME" then udir else if s = "USER" then uname else r.2) ∧
      getenv (envp r.1) (utf8 s) = some (utf8 w) := by
  intro r
  have hs : Json.Ascii s.data := by rcases hs4 with rfl | rfl | rfl | rfl <;> decide
  have hpath : s ≠ "PATH" := by rcases hs4 with rfl | rfl | rfl | rfl <;> decide
  have hE : userEnvironment pybindir envFile safeLoad repr =
      (PyDict.empty.setItem (.str "PATH") (defaultPath pybindir)).update items := by
    simp only [userEnvironment, hitems]
  have hstrE : (userEnvironment pybindir envFile safeLoad repr).get? (.str s) = none := by
    rw [userEnvironment_get?, hitems, Option.some_bind, hstr, if_neg (fun e => hpath (EnvKey.str.inj e))]
    rfl
  refine ⟨?_, getenv_envp_of_firstNamed
    ((hE ▸ firstNamed_update hs pybindir hpath hb hstr).childEnviron hs4 hstrE)⟩
  obtain ⟨hh, hu, hp, hc, -⟩ :=
    childEnviron_spec (userEnvironment pybindir envFile safeLoad repr) udir uname isDir
  rcases hs4 with rfl | rfl | rfl | rfl
  · exact hh
  · exact hu
  · exact hp
  · exact hc

theorem binary_key_shadows_child_env_home :
    let r := childEnviron (userEnvironment "/opt/venv/bin" (.ok (some "!!binary SE9NRQ==: /tmp/x"))
      (fun _ => .ok (.map [(.bytes (utf8 "HOME"), .str "/tmp/x")])) fun _ => "") "/home/u" "u"
      fun _ => true
    r.1.get? (.str "HOME") = some (if "HOME" = "HOME" then "/home/u" else if "HOME" = "USER" then "u"
      else r.2) ∧
      getenv (envp r.1) (utf8 "HOME") = some (utf8 "/tmp/x") :=
  binary_key_shadows_child_env _ _ _ _ _ _ _ (.inl rfl) rfl rfl rfl

end EndpointManager
