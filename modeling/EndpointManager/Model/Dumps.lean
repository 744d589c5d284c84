import EndpointManager.Model.Json

/-!
# `json.dumps`

The child of `cmd_start_endpoint` hands the endpoint its AMQP credentials and rendered
configuration as `json.dumps({"amqp_creds": ..., "config": ...})` on stdin, after checking
`len(stdin_data)` against the pipe's capacity in bytes (lines 972-996). The check counts
characters, so it is sound only because `json.dumps` with its default `ensure_ascii=True`
writes ASCII alone: one byte per character (`length_utf8_dumps`).

`dumpsChars` follows the standard library's encoder with its default arguments: the
separators `", "` and `": "`, `true`, `false`, `null`, `int.__repr__` for numbers, and
`encode_basestring_ascii` for strings, which keeps the printable ASCII characters but `\`
and `"`, writes `\b`, `\f`, `\n`, `\r`, `\t` for those controls, and `\uXXXX` (with lower
hexadecimal digits, as a surrogate pair above `U+FFFF`) for every other character. A
`dict` that `json.loads` built from pairs with a repeated key holds the key at its first
position with its last value, and `dumpsPairs` writes it so.

`utf8` is also how `execve` passes a `str` name of the environment; UTF-8 gives no other
text the bytes of an ASCII text (`utf8_inj_ascii`).
-/

namespace EndpointManager

namespace Json

/-- `Py_hexdigits`. -/
def hexdigits : List Char := "0123456789abcdef".toList

def hexDigit (n : Nat) : Char := hexdigits.getD n '0'

/-- Four hexadecimal digits of `n`, as `"\\u{0:04x}".format(n)` writes them. -/
def hex4 (n : Nat) : List Char :=
  [hexDigit (n >>> 12 &&& 0xf), hexDigit (n >>> 8 &&& 0xf), hexDigit (n >>> 4 &&& 0xf),
    hexDigit (n &&& 0xf)]

/-- `encode_basestring_ascii`'s replacement for one character. -/
def escapeChar (c : Char) : List Char :=
  if c = '\\' then ['\\', '\\']
  else if c = '"' then ['\\', '"']
  else if ' ' ≤ c ∧ c ≤ '~' then [c]
  else if c = '\x08' then ['\\', 'b']
  else if c = '\x0c' then ['\\', 'f']
  else if c = '\n' then ['\\', 'n']
  else if c = '\r' then ['\\', 'r']
  else if c = '\t' then ['\\', 't']
  else if c.toNat < 0x10000 then '\\' :: 'u' :: hex4 c.toNat
  else
    let n := c.toNat - 0x10000
    '\\' :: 'u' :: hex4 (0xd800 ||| (n >>> 10 &&& 0x3ff)) ++
      '\\' :: 'u' :: hex4 (0xdc00 ||| (n &&& 0x3ff))

/-- A string as `json.dumps` writes it, quotes included. -/
def encodeStr (s : String) : List Char := '"' :: s.toList.flatMap escapeChar ++ ['"']

/-- `sep.join(items)` -/
def sepBy (sep : List Char) : List (List Char) → List Char
  | [] => []
  | [x] => x
  | x :: xs => x ++ sep ++ sepBy sep xs

mutual

/-- `json.dumps(v)`, as characters. -/
def dumpsChars : Json → List Char
  | null => "null".toList
  | bool b => if b then "true".toList else "false".toList
  | num n => (toString n).toList
  | str s => encodeStr s
  | arr xs => '[' :: sepBy ", ".toList (dumpsItems xs) ++ [']']
  | obj kvs => '{' :: sepBy ", ".toList (dumpsPairs [] kvs) ++ ['}']

/-- The items of a `list`. -/
def dumpsItems : List Json → List (List Char)
  | [] => []
  | x :: xs => dumpsChars x :: dumpsItems xs

/-- The items of a `dict` built from `kvs`: each key at its first occurrence (`seen` holds
the keys already written), with the value of its last. -/
def dumpsPairs (seen : List String) : List (String × Json) → List (List Char)
  | [] => []
  | (k, v) :: rest =>
    if k ∈ seen then dumpsPairs seen rest
    else
      (encodeStr k ++ ": ".toList ++ (lastDump k rest).getD (dumpsChars v)) ::
        dumpsPairs (k :: seen) rest

/-- The value of the last occurrence of `k`, written. -/
def lastDump (k : String) : List (String × Json) → Option (List Char)
  | [] => none
  | (k', v) :: rest =>
    match lastDump k rest with
    | some d => some d
    | none => if k' = k then some (dumpsChars v) else none

end

/-- `json.dumps(v)` -/
def dumps (v : Json) : String := ⟨dumpsChars v⟩

example : dumpsChars (obj [("a", num 1), ("b", str "é\n"), ("a", arr [null, bool true])]) =
    "\x7b\"a\": [null, true], \"b\": \"\\u00e9\\n\"\x7d".toList := by
  rfl

/-! ## Only ASCII -/

/-- Every character is ASCII: one UTF-8 byte each. -/
def Ascii (cs : List Char) : Prop := ∀ c ∈ cs, c.toNat < 128

instance (cs : List Char) : Decidable (Ascii cs) :=
  inferInstanceAs (Decidable (∀ c ∈ cs, c.toNat < 128))

theorem Ascii.append {xs ys : List Char} (hx : Ascii xs) (hy : Ascii ys) : Ascii (xs ++ ys) := by
  intro c hc
  rcases List.mem_append.1 hc with h | h
  · exact hx c h
  · exact hy c h

theorem Ascii.cons {c : Char} {cs : List Char} (hc : c.toNat < 128) (h : Ascii cs) : Ascii (c :: cs) := by
  intro d hd
  rcases List.mem_cons.1 hd with rfl | hd
  · exact hc
  · exact h d hd

theorem hexDigit_ascii : ∀ n, n < 16 → (hexDigit n).toNat < 128 := by decide

theorem hex4_ascii (n : Nat) : Ascii (hex4 n) := by
  have h : ∀ m, (hexDigit (m &&& 0xf)).toNat < 128 := fun m =>
    hexDigit_ascii _ (Nat.lt_of_le_of_lt Nat.and_le_right (by decide))
  intro c hc
  simp only [hex4, List.mem_cons, List.mem_singleton, List.not_mem_nil, or_false] at hc
  rcases hc with rfl | rfl | rfl | rfl <;> exact h _

theorem Ascii.ite {p : Prop} [Decidable p] {a b : List Char} (ha : p → Ascii a) (hb : ¬p → Ascii b) :
    Ascii (if p then a else b) := by
  by_cases h : p
  · rw [if_pos h]; exact ha h
  · rw [if_neg h]; exact hb h

theorem escapeChar_ascii (c : Char) : Ascii (escapeChar c) := by
  have hu : ∀ cs, Ascii cs → Ascii ('\\' :: 'u' :: cs) := fun cs h =>
    .cons (by decide) (.cons (by decide) h)
  have hprint : ' ' ≤ c ∧ c ≤ '~' → Ascii [c] := fun h =>
    .cons (Nat.lt_of_le_of_lt (show c.toNat ≤ 126 from h.2) (by decide)) (by decide)
  unfold escapeChar
  refine .ite (fun _ => by decide) fun _ => .ite (fun _ => by decide) fun _ => .ite hprint fun _ => ?_
  -- the five controls with a short escape
  refine .ite (fun _ => by decide) fun _ => .ite (fun _ => by decide) fun _ =>
    .ite (fun _ => by decide) fun _ => .ite (fun _ => by decide) fun _ => .ite (fun _ => by decide) fun _ => ?_
  -- `\uXXXX`, or a surrogate pair above `U+FFFF`
  exact .ite (fun _ => hu _ (hex4_ascii _)) fun _ => (hu _ (hex4_ascii _)).append (hu _ (hex4_ascii _))

theorem encodeStr_ascii (s : String) : Ascii (encodeStr s) := by
  refine .cons (by decide) (.append ?_ (by decide))
  intro c hc
  obtain ⟨d, -, hd⟩ := List.mem_flatMap.1 hc
  exact escapeChar_ascii d c hd

theorem toDigitsCore_ascii (fuel n : Nat) {ds : List Char} (h : Ascii ds) :
    Ascii (Nat.toDigitsCore 10 fuel n ds) := by
  have hd : ∀ m < 10, (Nat.digitChar m).toNat < 128 := by decide
  induction fuel generalizing n ds with
  | zero => exact h
  | succ fuel ih =>
    have hc := hd (n % 10) (Nat.mod_lt _ (by decide))
    show Ascii (if n / 10 = 0 then Nat.digitChar (n % 10) :: ds
      else Nat.toDigitsCore 10 fuel (n / 10) (Nat.digitChar (n % 10) :: ds))
    split
    · exact .cons hc h
    · exact ih _ (.cons hc h)

theorem intRepr_ascii (n : Int) : Ascii (toString n).toList := by
  cases n with
  | ofNat m => exact toDigitsCore_ascii _ _ (by decide)
  | negSucc m => exact .cons (by decide) (toDigitsCore_ascii _ _ (by decide))

/-- A joined list of ASCII items, with an ASCII separator, is ASCII. -/
theorem sepBy_ascii {sep : List Char} (hs : Ascii sep) :
    ∀ {xs : List (List Char)}, (∀ x ∈ xs, Ascii x) → Ascii (sepBy sep xs)
  | [], _ => fun c hc => absurd hc (List.not_mem_nil c)
  | [x], h => h x (List.mem_singleton_self x)
  | x :: _ :: _, h =>
    ((h x (List.mem_cons_self _ _)).append hs).append
      (sepBy_ascii hs fun z hz => h z (List.mem_cons_of_mem _ hz))

mutual

/-- `json.dumps` writes only ASCII, whatever the value holds. -/
theorem dumpsChars_ascii : ∀ v : Json, Ascii (dumpsChars v)
  | null => by decide
  | bool b => by cases b <;> decide
  | num n => intRepr_ascii n
  | str s => encodeStr_ascii s
  | arr xs => .cons (by decide) ((sepBy_ascii (by decide) (dumpsItems_ascii xs)).append (by decide))
  | obj kvs =>
    .cons (by decide) ((sepBy_ascii (by decide) (dumpsPairs_ascii [] kvs)).append (by decide))

theorem dumpsItems_ascii : ∀ xs : List Json, ∀ x ∈ dumpsItems xs, Ascii x
  | [] => fun _ h => by cases h
  | x :: xs => fun y hy => by
    rcases List.mem_cons.1 hy with rfl | hy
    · exact dumpsChars_ascii x
    · exact dumpsItems_ascii xs y hy

theorem dumpsPairs_ascii (seen : List String) :
    ∀ kvs : List (String × Json), ∀ x ∈ dumpsPairs seen kvs, Ascii x
  | [] => fun _ h => by cases h
  | (k, v) :: rest => fun y hy => by
    unfold dumpsPairs at hy
    split at hy
    · exact dumpsPairs_ascii seen rest y hy
    · rcases List.mem_cons.1 hy with rfl | hy
      · refine ((encodeStr_ascii k).append (by decide)).append ?_
        cases hd : lastDump k rest with
        | none => exact dumpsChars_ascii v
        | some d => exact lastDump_ascii k rest d hd
      · exact dumpsPairs_ascii (k :: seen) rest y hy

theorem lastDump_ascii (k : String) :
    ∀ kvs : List (String × Json), ∀ d, lastDump k kvs = some d → Ascii d
  | [], _, h => by cases h
  | (k', v) :: rest, d, h => by
    unfold lastDump at h
    split at h
    · next _ _ he => cases h; exact lastDump_ascii k rest _ he
    · split at h
      · cases h
        exact dumpsChars_ascii v
      · cases h

end

end Json

/-! ## Bytes -/

/-- The bytes a text file in a UTF-8 locale writes for `s`. -/
def utf8 (s : String) : List UInt8 := s.data.flatMap String.utf8EncodeChar

theorem length_utf8EncodeChar {c : Char} (h : c.toNat < 128) : (String.utf8EncodeChar c).length = 1 := by
  have : c.val ≤ 0x7f := show c.toNat ≤ 127 by omega
  simp [String.utf8EncodeChar, this]

/-- An ASCII text takes one byte a character. -/
theorem length_utf8 {cs : List Char} (h : Json.Ascii cs) : (utf8 ⟨cs⟩).length = cs.length := by
  induction cs with
  | nil => rfl
  | cons c cs ih =>
    simp only [utf8, List.flatMap_cons, List.length_append, List.length_cons] at ih ⊢
    rw [length_utf8EncodeChar (h c (List.mem_cons_self _ _)), ih fun d hd => h d (List.mem_cons_of_mem _ hd)]
    omega

/-- An ASCII character is its own byte. -/
theorem utf8EncodeChar_ascii {c : Char} (h : c.toNat < 128) : String.utf8EncodeChar c = [c.val.toUInt8] := by
  have : c.val ≤ 0x7f := show c.toNat ≤ 127 by omega
  simp [String.utf8EncodeChar, this]

theorem toUInt8_toNat_of_lt {c : Char} (h : c.toNat < 128) : c.val.toUInt8.toNat = c.toNat := by
  show c.val.toNat % 256 = c.toNat
  exact Nat.mod_eq_of_lt (by unfold Char.toNat at h; omega)

/-- A byte with its high bit set keeps it under `|||`. -/
theorem le_toNat_or (x y : UInt8) (hy : 128 ≤ y.toNat) : 128 ≤ (x ||| y).toNat := by
  have hb : y.toNat.testBit 7 = true := by
    have := y.toNat_lt
    rw [Nat.testBit_to_div_mod, decide_eq_true_eq]
    omega
  show 128 ≤ (x.toBitVec ||| y.toBitVec).toNat
  rw [BitVec.toNat_or]
  have h7 : (x.toBitVec.toNat ||| y.toNat).testBit 7 = true := by
    rw [Nat.testBit_or, hb, Bool.or_true]
  exact Nat.testBit_implies_ge h7

/-- The lead byte of a character that is not ASCII is not an ASCII byte. -/
theorem utf8EncodeChar_head {c : Char} (h : 128 ≤ c.toNat) :
    ∃ b bs, String.utf8EncodeChar c = b :: bs ∧ 128 ≤ b.toNat := by
  have : ¬ c.val ≤ 0x7f := fun h' => by
    have : c.toNat ≤ 127 := h'
    omega
  unfold String.utf8EncodeChar
  simp only [if_neg this]
  split_ifs <;> exact ⟨_, _, rfl, le_toNat_or _ _ (by decide)⟩

theorem flatMap_utf8EncodeChar_inj : ∀ {cs ds : List Char}, Json.Ascii ds →
    cs.flatMap String.utf8EncodeChar = ds.flatMap String.utf8EncodeChar → cs = ds
  | [], [], _, _ => rfl
  | [], d :: ds, hd, h => by simp [utf8EncodeChar_ascii (hd d (.head _))] at h
  | c :: cs, [], _, h => by
    simp only [List.flatMap_cons, List.flatMap_nil, List.append_eq_nil] at h
    exact absurd (by rw [← String.length_utf8EncodeChar, h.1]; rfl) (Char.utf8Size_pos c).ne
  | c :: cs, d :: ds, hd, h => by
    have hd0 := hd d (.head _)
    simp only [List.flatMap_cons, utf8EncodeChar_ascii hd0] at h
    by_cases hc : c.toNat < 128
    · rw [utf8EncodeChar_ascii hc] at h
      simp only [List.singleton_append, List.cons.injEq] at h
      have hcd : c = d := by
        have := congrArg UInt8.toNat h.1
        rw [toUInt8_toNat_of_lt hc, toUInt8_toNat_of_lt hd0] at this
        exact Char.ext (UInt32.toNat.inj this)
      rw [hcd, flatMap_utf8EncodeChar_inj (fun x hx => hd x (.tail _ hx)) h.2]
    · obtain ⟨b, bs, hcb, hb⟩ := utf8EncodeChar_head (Nat.le_of_not_lt hc)
      rw [hcb] at h
      simp only [List.cons_append, List.singleton_append, List.cons.injEq] at h
      have := toUInt8_toNat_of_lt hd0
      rw [← h.1] at this
      omega

/-- No other text has the bytes of an ASCII text. -/
theorem utf8_inj_ascii {s t : String} (ht : Json.Ascii t.data) (h : utf8 s = utf8 t) : s = t :=
  String.ext (flatMap_utf8EncodeChar_inj ht h)

/-- `len(json.dumps(v))` counts the bytes the document takes in the pipe. -/
theorem length_utf8_dumps (v : Json) : (utf8 (Json.dumps v)).length = (Json.dumps v).length :=
  length_utf8 (Json.dumpsChars_ascii v)

end EndpointManager
