import Mathlib.Data.List.Nodup

/-!
# The manager's two tables

`EndpointManager` keeps its children in a `dict` (`self._children`) and the start
arguments it may replay in a `cachetools.TTLCache` (`self._cached_cmd_start_args`).
Both are modelled with the invariant Python maintains for them, distinct keys, as a
field, so that no table with a repeated key can be built.

* `PyDict.setItem`, `PyDict.pop`: `d[k] = v` and `d.pop(k, None)`, with
  `mem_setItem` and `mem_pop` describing the pairs afterwards.
* `TTLCache.setItem`, `TTLCache.pop`: the cache's `__setitem__` (expire, evict while
  full, insert last with expiry `now + ttl`) and `pop(k, None)`, which finds only an
  unexpired entry. `pop_eq_some` is what a caller may conclude from a hit.
-/

namespace EndpointManager

/-! ## `dict` -/

/-- A Python `dict`: its pairs in insertion order, keys distinct. -/
structure PyDict (α β : Type) where
  pairs : List (α × β)
  nodup : (pairs.map (·.1)).Nodup

namespace PyDict

variable {α β : Type} [DecidableEq α]

/-- `{}` -/
def empty : PyDict α β := ⟨[], List.nodup_nil⟩

/-- The keys, in iteration order. -/
def keys (d : PyDict α β) : List α := d.pairs.map (·.1)

/-- `d.get(k)` -/
def get? (d : PyDict α β) (k : α) : Option β := (d.pairs.find? (·.1 = k)).map (·.2)

private theorem keys_map_replace (ps : List (α × β)) (k : α) (v : β) :
    (ps.map fun p => if p.1 = k then (k, v) else p).map (·.1) = ps.map (·.1) := by
  rw [List.map_map]
  congr 1
  funext p
  by_cases h : p.1 = k <;> simp [h]

/-- `d[k] = v`: an existing key keeps its place, a new key goes last. -/
def setItem (d : PyDict α β) (k : α) (v : β) : PyDict α β :=
  if h : k ∈ d.keys then
    ⟨d.pairs.map fun p => if p.1 = k then (k, v) else p, by
      rw [keys_map_replace]; exact d.nodup⟩
  else
    ⟨d.pairs ++ [(k, v)], by
      rw [List.map_append, List.nodup_append]
      exact ⟨d.nodup, List.nodup_singleton _, List.disjoint_singleton.2 h⟩⟩

/-- `d.pop(k, None)`: the value and the dict without `k`. -/
def pop (d : PyDict α β) (k : α) : Option β × PyDict α β :=
  (d.get? k, ⟨d.pairs.filter (·.1 ≠ k), d.nodup.sublist ((List.filter_sublist _).map _)⟩)

omit [DecidableEq α] in
@[simp] theorem empty_pairs : (empty : PyDict α β).pairs = [] := rfl

omit [DecidableEq α] in
theorem mem_keys {d : PyDict α β} {k : α} : k ∈ d.keys ↔ ∃ v, (k, v) ∈ d.pairs := by
  simp [keys]

theorem mem_setItem {d : PyDict α β} {k k' : α} {v v' : β} :
    (k', v') ∈ (d.setItem k v).pairs ↔ (k' = k ∧ v' = v) ∨ (k' ≠ k ∧ (k', v') ∈ d.pairs) := by
  unfold setItem
  split
  · rename_i h
    obtain ⟨w, hw⟩ := mem_keys.1 h
    simp only [List.mem_map, Prod.exists]
    constructor
    · rintro ⟨a, b, hab, he⟩
      by_cases hak : a = k
      · simp only [hak, if_true, Prod.mk.injEq] at he
        exact .inl ⟨he.1.symm, he.2.symm⟩
      · simp only [hak, if_false, Prod.mk.injEq] at he
        obtain ⟨rfl, rfl⟩ := he
        exact .inr ⟨hak, hab⟩
    · rintro (⟨rfl, rfl⟩ | ⟨hk, hm⟩)
      · exact ⟨k', w, hw, by simp⟩
      · exact ⟨k', v', hm, by simp [hk]⟩
  · rename_i h
    simp only [List.mem_append, List.mem_singleton, Prod.mk.injEq]
    constructor
    · rintro (hm | he)
      · exact .inr ⟨fun hk => h (mem_keys.2 ⟨v', hk ▸ hm⟩), hm⟩
      · exact .inl he
    · rintro (he | ⟨_, hm⟩)
      · exact .inr he
      · exact .inl hm

/-- A new key goes last. -/
theorem setItem_pairs_of_not_mem {d : PyDict α β} {k : α} {v : β} (h : k ∉ d.keys) :
    (d.setItem k v).pairs = d.pairs ++ [(k, v)] := by
  simp only [setItem, dif_neg h]

theorem mem_pop {d : PyDict α β} {k k' : α} {v' : β} :
    (k', v') ∈ (d.pop k).2.pairs ↔ k' ≠ k ∧ (k', v') ∈ d.pairs := by
  simp [pop, List.mem_filter, and_comm]

theorem mem_keys_setItem {d : PyDict α β} {k k' : α} {v : β} :
    k' ∈ (d.setItem k v).keys ↔ k' = k ∨ k' ∈ d.keys := by
  simp only [mem_keys, mem_setItem]
  constructor
  · rintro ⟨w, ⟨rfl, -⟩ | ⟨-, hm⟩⟩
    · exact .inl rfl
    · exact .inr ⟨w, hm⟩
  · rintro (rfl | ⟨w, hm⟩)
    · exact ⟨v, .inl ⟨rfl, rfl⟩⟩
    · by_cases hk : k' = k
      · exact ⟨v, .inl ⟨hk, rfl⟩⟩
      · exact ⟨w, .inr ⟨hk, hm⟩⟩

theorem mem_keys_pop {d : PyDict α β} {k k' : α} :
    k' ∈ (d.pop k).2.keys ↔ k' ≠ k ∧ k' ∈ d.keys := by
  simp only [mem_keys, mem_pop]
  exact ⟨fun ⟨w, hk, hm⟩ => ⟨hk, w, hm⟩, fun ⟨hk, w, hm⟩ => ⟨w, hk, hm⟩⟩

/-- `d.update(e)`: `e`'s pairs set in `e`'s order. -/
def update (d e : PyDict α β) : PyDict α β := e.pairs.foldl (fun d p => d.setItem p.1 p.2) d

omit [DecidableEq α] in
@[simp] theorem get?_empty [DecidableEq α] (k : α) : (empty : PyDict α β).get? k = none := rfl

/-- With distinct keys, `get?` finds exactly the pairs. -/
theorem get?_eq_some {d : PyDict α β} {k : α} {v : β} : d.get? k = some v ↔ (k, v) ∈ d.pairs := by
  constructor
  · intro h
    obtain ⟨p, hp, rfl⟩ := Option.map_eq_some'.1 h
    have hk : p.1 = k := by simpa using List.find?_some hp
    exact hk ▸ List.mem_of_find?_eq_some hp
  · intro h
    have hs : (d.pairs.find? (·.1 = k)).isSome := List.find?_isSome.2 ⟨_, h, by simp⟩
    obtain ⟨p, hp⟩ := Option.isSome_iff_exists.1 hs
    have hpk : p.1 = k := by simpa using List.find?_some hp
    have := List.inj_on_of_nodup_map d.nodup (List.mem_of_find?_eq_some hp) h hpk
    simp [get?, hp, this]

theorem get?_setItem (d : PyDict α β) (k k' : α) (v : β) :
    (d.setItem k v).get? k' = if k' = k then some v else d.get? k' := by
  refine Option.ext fun w => ?_
  rw [Option.mem_def, Option.mem_def, get?_eq_some, mem_setItem]
  by_cases e : k' = k
  · simp [e, eq_comm]
  · simp [e, get?_eq_some]

private theorem get?_foldl_setItem (l : List (α × β)) (hl : (l.map (·.1)).Nodup) (d : PyDict α β) (k : α) :
    (l.foldl (fun d p => d.setItem p.1 p.2) d).get? k = ((l.find? (·.1 = k)).map (·.2)).or (d.get? k) := by
  induction l generalizing d with
  | nil => rfl
  | cons p l ih =>
    rw [List.map_cons, List.nodup_cons] at hl
    rw [List.foldl_cons, ih hl.2, get?_setItem, List.find?_cons]
    by_cases e : p.1 = k
    · subst e
      have : l.find? (·.1 = p.1) = none := List.find?_eq_none.2 fun q hq hqe =>
        hl.1 (List.mem_map.2 ⟨q, hq, by simpa using hqe⟩)
      simp [this]
    · simp [e, Ne.symm e]

theorem get?_update (d e : PyDict α β) (k : α) : (d.update e).get? k = (e.get? k).or (d.get? k) :=
  get?_foldl_setItem e.pairs e.nodup d k

end PyDict

/-! ## `cachetools.TTLCache` -/

/-- A `TTLCache(maxsize, ttl)` as the manager uses it, through `__setitem__` and
`pop` only: its entries `(key, value, expires)` in the order they were last set, which
is both the order `expire` walks and the least-recently-used order `popitem`
evicts in. -/
structure TTLCache (α β : Type) where
  maxsize : Nat
  ttl : Nat
  links : List (α × β × Nat)
  nodup : (links.map (·.1)).Nodup
  maxsize_pos : 0 < maxsize
  size_le : links.length ≤ maxsize

namespace TTLCache

variable {α β : Type} [DecidableEq α]

/-- `TTLCache(maxsize=maxsize, ttl=ttl)` -/
def empty (maxsize ttl : Nat) (h : 0 < maxsize) : TTLCache α β :=
  ⟨maxsize, ttl, [], List.nodup_nil, h, Nat.zero_le _⟩

/-- The keys, least recently set first. -/
def keys (c : TTLCache α β) : List α := c.links.map (·.1)

/-- The value of `k` if its entry has not expired at `now` (`key in c`). -/
def live (c : TTLCache α β) (now : Nat) (k : α) : Option β :=
  match c.links.find? (·.1 = k) with
  | some (_, v, e) => if now < e then some v else none
  | none => none

/-- `c.pop(k, None)` at time `now` (`_TimedCache.pop` reads the timer once): an
unexpired entry is removed and returned; an expired one is not found and stays until the
next `expire`. -/
def pop (c : TTLCache α β) (now : Nat) (k : α) : Option β × TTLCache α β :=
  match c.live now k with
  | some v => (some v, { c with
      links := c.links.filter (·.1 ≠ k)
      nodup := c.nodup.sublist ((List.filter_sublist _).map _)
      size_le := (List.length_filter_le _ _).trans c.size_le })
  | none => (none, c)

private theorem nodup_set (kept : List (α × β × Nat)) (hk : (kept.map (·.1)).Nodup) (k : α)
    (x : β × Nat) : (((kept.filter (·.1 ≠ k)) ++ [(k, x)]).map (·.1)).Nodup := by
  rw [List.map_append, List.nodup_append]
  refine ⟨?_, List.nodup_singleton _, ?_⟩
  · exact hk.sublist ((List.filter_sublist _).map _)
  · simp [List.disjoint_singleton, List.mem_filter]

/-- Expired entries dropped, the least recently set evicted while a new key would not fit,
an entry for `k` replaced: the result holds at most `maxsize` entries. -/
private theorem length_set_le (kept : List (α × β × Nat)) {maxsize : Nat} (hpos : 0 < maxsize)
    (hk : kept.length ≤ maxsize) (k : α) (x : β × Nat) :
    (((if kept.any (·.1 = k) then kept else kept.drop (kept.length + 1 - maxsize)).filter
      (·.1 ≠ k)) ++ [(k, x)]).length ≤ maxsize := by
  rw [List.length_append, List.length_singleton]
  split
  · rename_i h
    have : ((kept.filter (·.1 ≠ k))).length < kept.length :=
      List.length_filter_lt_length_iff_exists.2 (by simpa using h)
    omega
  · have := List.length_filter_le (·.1 ≠ k) (kept.drop (kept.length + 1 - maxsize))
    rw [List.length_drop] at this
    omega

/-- `c[k] = v` at time `now`: `expire(now)` drops the expired entries from the front,
`popitem` evicts the least recently set entries while a new key would exceed `maxsize`,
and `k` is put last with expiry `now + ttl`. -/
def setItem (c : TTLCache α β) (now : Nat) (k : α) (v : β) : TTLCache α β :=
  let kept := c.links.dropWhile fun l => l.2.2 ≤ now
  let kept := if kept.any (·.1 = k) then kept else kept.drop (kept.length + 1 - c.maxsize)
  { c with
    links := kept.filter (·.1 ≠ k) ++ [(k, v, now + c.ttl)]
    nodup := nodup_set kept (by
      have hs : kept.Sublist c.links := by
        dsimp only [kept]
        split
        · exact List.dropWhile_sublist _
        · exact (List.drop_sublist _ _).trans (List.dropWhile_sublist _)
      exact c.nodup.sublist (hs.map _)) k (v, now + c.ttl)
    size_le := length_set_le _ c.maxsize_pos
      ((List.dropWhile_sublist _).length_le.trans c.size_le) k (v, now + c.ttl) }

omit [DecidableEq α] in
@[simp] theorem empty_links (maxsize ttl : Nat) (h : 0 < maxsize) :
    (empty maxsize ttl h : TTLCache α β).links = [] := rfl

@[simp] theorem setItem_ttl (c : TTLCache α β) (now : Nat) (k : α) (v : β) :
    (c.setItem now k v).ttl = c.ttl := rfl

@[simp] theorem pop_ttl (c : TTLCache α β) (now : Nat) (k : α) :
    (c.pop now k).2.ttl = c.ttl := by
  unfold pop; split <;> rfl

@[simp] theorem setItem_maxsize (c : TTLCache α β) (now : Nat) (k : α) (v : β) :
    (c.setItem now k v).maxsize = c.maxsize := rfl

@[simp] theorem pop_maxsize (c : TTLCache α β) (now : Nat) (k : α) :
    (c.pop now k).2.maxsize = c.maxsize := by
  unfold pop; split <;> rfl

/-- After `c[k] = v`, an entry is the new one or an older entry of another key. -/
theorem mem_setItem {c : TTLCache α β} {now : Nat} {k : α} {v : β} {l : α × β × Nat}
    (h : l ∈ (c.setItem now k v).links) : l = (k, v, now + c.ttl) ∨ (l.1 ≠ k ∧ l ∈ c.links) := by
  simp only [setItem, List.mem_append, List.mem_filter, List.mem_singleton] at h
  rcases h with ⟨hm, hk⟩ | rfl
  · refine .inr ⟨by simpa using hk, ?_⟩
    split at hm
    · exact (List.dropWhile_sublist _).subset hm
    · exact (List.dropWhile_sublist _).subset ((List.drop_sublist _ _).subset hm)
  · exact .inl rfl

theorem mem_keys_setItem {c : TTLCache α β} {now : Nat} {k k' : α} {v : β}
    (h : k' ∈ (c.setItem now k v).keys) : k' = k ∨ k' ∈ c.keys := by
  obtain ⟨l, hl, rfl⟩ := List.mem_map.1 h
  rcases mem_setItem hl with rfl | ⟨-, hm⟩
  · exact .inl rfl
  · exact .inr (List.mem_map_of_mem _ hm)

theorem live_eq_some {c : TTLCache α β} {now : Nat} {k : α} {v : β}
    (h : c.live now k = some v) : ∃ e, (k, v, e) ∈ c.links ∧ now < e := by
  unfold live at h
  split at h
  · rename_i k' v' e hf
    split at h
    · cases h
      have hk : k' = k := by simpa using List.find?_some hf
      exact ⟨e, hk ▸ List.mem_of_find?_eq_some hf, by assumption⟩
    · cases h
  · cases h

/-- A hit: the entry was in the cache, unexpired at `now`, and is gone afterwards. -/
theorem pop_eq_some {c c' : TTLCache α β} {now : Nat} {k : α} {v : β}
    (h : c.pop now k = (some v, c')) :
    (∃ e, (k, v, e) ∈ c.links ∧ now < e) ∧ c'.links = c.links.filter (·.1 ≠ k) := by
  unfold pop at h
  split at h
  · rename_i v' hv
    simp only [Prod.mk.injEq, Option.some.injEq] at h
    obtain ⟨rfl, rfl⟩ := h
    exact ⟨live_eq_some hv, rfl⟩
  · simp at h

/-- A miss leaves the cache as it was. -/
theorem pop_eq_none {c c' : TTLCache α β} {now : Nat} {k : α}
    (h : c.pop now k = (none, c')) : c' = c := by
  unfold pop at h
  split at h <;> simp_all

/-- `pop` only removes entries. -/
theorem mem_links_pop {c : TTLCache α β} {now : Nat} {k : α} {l : α × β × Nat}
    (h : l ∈ (c.pop now k).2.links) : l ∈ c.links := by
  unfold pop at h
  split at h
  · exact (List.mem_filter.1 h).1
  · exact h

theorem mem_keys_pop {c : TTLCache α β} {now : Nat} {k k' : α}
    (h : k' ∈ (c.pop now k).2.keys) : k' ∈ c.keys := by
  unfold pop at h
  split at h
  · obtain ⟨l, hl, rfl⟩ := List.mem_map.1 h
    exact List.mem_map_of_mem _ (List.mem_filter.1 hl).1
  · exact h

end TTLCache

end EndpointManager
