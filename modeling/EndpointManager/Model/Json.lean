import Mathlib.Data.String.Basic

/-!
# Decoded command messages

A command body reaches `EndpointManager._event_loop` as bytes and leaves `json.loads` as
a Python value built from `dict`, `list`, `str`, `int`, `float`, `bool` and `None`. `Json`
is that value without `float`s: a message whose body holds a `float` anywhere is not a
`Json`, and nothing proved about messages covers it. The manager never checks the shape of
what it decodes: it calls `.get` on it, indexes it with `[...]`, iterates it, unpacks it
with `*`, hashes it into sets and `' '.join`s it. Each of these raises on some shapes, and
which one raises decides whether the loop answers with a failure notice, goes on, or
ends, so each is modelled here with the exception Python raises (`PyExc`).

* `Json.get`, `Json.getItem`: `d.get(k, default)` and `d[k]`; only a `dict` has them.
* `Json.iter`: `for x in v` and `*v`, over a list, a string or a dict's keys.
* `Json.subs`: `{ident["sub"] for ident in identity_set}`.
* `Json.joinable`: when `' '.join(xs)` returns instead of raising `TypeError`.
-/

namespace EndpointManager

/-- A value as `json.loads` returns it, for a document without a fraction, an exponent,
`NaN` or `Infinity`. An object keeps its pairs in document order; `json.loads` builds a
`dict` from them, so a repeated key takes its last value (`Json.lookup`) at the position
of its first occurrence (`Json.iter`). Numbers are Python `int`s. -/
inductive Json where
  | null
  | bool (b : Bool)
  | num (n : Int)
  | str (s : String)
  | arr (xs : List Json)
  | obj (kvs : List (String × Json))
  deriving Repr, Inhabited

/-- The exceptions the modelled code raises. All are `Exception` subclasses, so every
`except Exception` of the source catches each of them. -/
inductive PyExc where
  | typeError
  | attributeError
  | keyError
  | valueError
  | overflowError
  | lookupError
  | osError
  | invalidCommandError
  | invalidUserError
  deriving Repr, DecidableEq, Inhabited

namespace Json

/-- `bool(v)`, which `if not v` and `v and ...` test. -/
def truthy : Json → Bool
  | null => false
  | bool b => b
  | num n => n != 0
  | str s => !s.isEmpty
  | arr xs => !xs.isEmpty
  | obj kvs => !kvs.isEmpty

/-- The value `json.loads` keeps for key `k`: the last one in the document. -/
def lookup (kvs : List (String × Json)) (k : String) : Option Json :=
  (kvs.reverse.find? (·.1 == k)).map (·.2)

/-- `v.get(k, default)`. A `list`, `str`, `int`, `bool` or `None` has no `get`. -/
def get (v : Json) (k : String) (default : Json) : Except PyExc Json :=
  match v with
  | obj kvs => .ok ((lookup kvs k).getD default)
  | _ => .error .attributeError

/-- `v[k]` with a string key: `KeyError` on a `dict` without `k`, `TypeError` on every
other value. -/
def getItem (v : Json) (k : String) : Except PyExc Json :=
  match v with
  | obj kvs => match lookup kvs k with
    | some x => .ok x
    | none => .error .keyError
  | _ => .error .typeError

/-- `for x in v`, or `*v`: a list's items, a string's characters, a dict's keys. -/
def iter : Json → Except PyExc (List Json)
  | arr xs => .ok xs
  | str s => .ok (s.toList.map fun c => str (String.singleton c))
  | obj kvs => .ok ((kvs.map (·.1)).eraseDups.map str)
  | _ => .error .typeError

/-- Whether `hash(v)` succeeds: lists and dicts are unhashable. -/
def hashable : Json → Bool
  | arr _ | obj _ => false
  | _ => true

/-- Python `==` between hashable values; `bool` is a subclass of `int`. -/
def pyEq : Json → Json → Bool
  | null, null => true
  | bool a, bool b => a == b
  | num a, num b => a == b
  | bool a, num b | num b, bool a => (if a then 1 else 0) == b
  | str a, str b => a == b
  | _, _ => false

/-- `ident["sub"]`, added to a set. -/
def subOf (ident : Json) : Except PyExc Json := do
  let sub ← ident.getItem "sub"
  if sub.hashable then pure sub else throw .typeError

/-- The set `{ident["sub"] for ident in identitySet}`, or the exception building it
raises. -/
def subs (identitySet : Json) : Except PyExc (List Json) := do
  let idents ← identitySet.iter
  idents.mapM subOf

/-- `s.intersection(t)` is nonempty. -/
def meets (s t : List Json) : Bool :=
  s.any fun x => t.any (pyEq x)

/-- The string a `str` value holds. -/
def asStr? : Json → Option String
  | str s => some s
  | _ => none

/-- `' '.join(xs)` returns (rather than raising `TypeError`) exactly when every item
is a `str`. -/
def joinable (xs : List Json) : Bool :=
  xs.all fun x => (asStr? x).isSome

theorem truthy_str {s : String} : (str s).truthy = true ↔ s ≠ "" := by
  rw [Ne, ← String.isEmpty_iff]
  simp [truthy]

theorem getItem_of_subOf {ident sub : Json} (h : subOf ident = .ok sub) :
    ident.getItem "sub" = .ok sub := by
  unfold subOf at h
  cases hg : ident.getItem "sub" with
  | error e => rw [hg] at h; cases h
  | ok v =>
    rw [hg] at h
    change (if v.hashable then Except.ok v else Except.error PyExc.typeError) = _ at h
    split at h <;> cases h
    rfl

private theorem mem_mapM_subOf {idents subs : List Json} {sub : Json}
    (h : idents.mapM subOf = .ok subs) (hs : sub ∈ subs) : ∃ ident ∈ idents, subOf ident = .ok sub := by
  induction idents generalizing subs with
  | nil => cases h; simp at hs
  | cons x xs ih =>
    rw [List.mapM_cons] at h
    cases hx : subOf x with
    | error e => rw [hx] at h; cases h
    | ok a =>
      cases hxs : xs.mapM subOf with
      | error e => rw [hx, hxs] at h; cases h
      | ok as =>
        rw [hx, hxs] at h
        change Except.ok (a :: as) = Except.ok subs at h
        cases h
        rcases List.mem_cons.1 hs with rfl | hs
        · exact ⟨x, List.mem_cons_self _ _, hx⟩
        · obtain ⟨x', hx', hf⟩ := ih hxs hs
          exact ⟨x', List.mem_cons_of_mem _ hx', hf⟩

/-- Each element of `{ident["sub"] for ident in identitySet}` is the `sub` of an item. -/
theorem mem_subs {identitySet sub : Json} {subs : List Json} (h : identitySet.subs = .ok subs)
    (hs : sub ∈ subs) :
    ∃ idents ident, identitySet.iter = .ok idents ∧ ident ∈ idents ∧ ident.getItem "sub" = .ok sub := by
  unfold Json.subs at h
  cases hi : identitySet.iter with
  | error e => rw [hi] at h; cases h
  | ok idents =>
    rw [hi] at h
    obtain ⟨ident, hm, hsub⟩ := mem_mapM_subOf h hs
    exact ⟨idents, ident, rfl, hm, getItem_of_subOf hsub⟩

theorem meets_eq_true {s t : List Json} : meets s t = true ↔ ∃ x ∈ s, ∃ y ∈ t, pyEq x y = true := by
  simp [meets]

@[simp] theorem get_obj (kvs : List (String × Json)) (k : String) (d : Json) :
    (obj kvs).get k d = .ok ((lookup kvs k).getD d) := rfl

@[simp] theorem iter_arr (xs : List Json) : (arr xs).iter = .ok xs := rfl

@[simp] theorem asStr?_str (s : String) : asStr? (str s) = some s := rfl

@[simp] theorem joinable_cons (x : Json) (xs : List Json) :
    joinable (x :: xs) = ((asStr? x).isSome && joinable xs) := rfl

@[simp] theorem joinable_nil : joinable [] = true := rfl

theorem joinable_map_str (ss : List String) : joinable (ss.map str) = true := by
  induction ss with
  | nil => rfl
  | cons s ss ih => simpa using ih

end Json

end EndpointManager
