import EndpointManager.Model.Child
import EndpointManager.Model.Stdio

/-!
# What the endpoint starts with

Every run of the child's descriptor setup ends in one of five ways
(`childStdio_outcomes`): `os.open(os.devnull)` or `os.pipe` runs out of descriptors, the
size check refuses the document, the write blocks, or the endpoint is exec'd with the
pipe holding the document on `0`, `/dev/null` on `1` and `2`, and nothing else open below
the hard limit. The three `os.dup2`, the three closes and the two `os.fdopen` never
raise, whatever the manager had open when it forked: the loop leaves `null_fd` above `2`
and the pipe's ends above it.

The size check counts characters and the pipe holds bytes, so a document with a
character outside ASCII could pass the check and still block the child before
`os.execvpe`, with no exit code for the parent. The document of lines 971-975 never
does (`stdinDocument_never_blocks`), since `json.dumps` escapes every such character.
When the descriptors leave room and the document fits, the setup reaches `os.execvpe`
(`childStdio_ok_of_room`).
-/

namespace EndpointManager

namespace Fds

theorem lowestFree_le (t : Fds) {n : Nat} (h : t.get n = none) : t.lowestFree ≤ n :=
  Nat.le_of_not_lt fun hn => by simpa [h] using t.get_of_lt_lowestFree hn

theorem lt_lowestFree (t : Fds) {n : Nat} (h : (t.get n).isSome) (hbelow : ∀ m < n, (t.get m).isSome) :
    n < t.lowestFree :=
  Nat.lt_of_not_le fun hn => by
    rcases Nat.eq_or_lt_of_le hn with e | hlt
    · simp [← e, t.get_lowestFree] at h
    · simpa [t.get_lowestFree] using hbelow _ hlt

end Fds

/-! ## `/dev/null` above `2` -/

/-- What `os.open` leaves behind: `fd` is open on `/dev/null`, not inheritable, below the
soft limit, and every descriptor below it is open. -/
structure Opened (t : Fds) (soft fd : Nat) : Prop where
  get_fd : t.get fd = some ⟨.devnull, false⟩
  lt_soft : fd < soft
  below : ∀ n < fd, (t.get n).isSome

theorem osOpen_spec {t t' : Fds} {soft fd : Nat} (h : osOpen t soft = some (fd, t')) :
    Opened t' soft fd ∧ t.get fd = none ∧ ∀ n, n ≠ fd → t'.get n = t.get n := by
  obtain ⟨rfl, hlt, rfl⟩ := osOpen_eq_some h
  refine ⟨⟨by simp, hlt, fun n hn => ?_⟩, t.get_lowestFree, fun n hn => by simp [hn]⟩
  simpa [Nat.ne_of_lt hn] using t.get_of_lt_lowestFree hn

/-- The loop ends on a descriptor above `2` that `os.open` returned, and among the
descriptors above `2` it opened only that one, which was closed when the loop began. -/
theorem devnullLoop_spec {t t' : Fds} {soft k fd : Nat} (h : devnullLoop t soft k = some (fd, t'))
    (hk : Opened t soft k) :
    (3 ≤ k → fd = k ∧ t' = t) ∧ (k < 3 → t.get fd = none) ∧ Opened t' soft fd ∧ 3 ≤ fd ∧
      ∀ n, 3 ≤ n → n ≠ fd → t'.get n = t.get n := by
  induction t, soft, k using devnullLoop.induct generalizing fd t' with
  | case1 t soft k hk3 hopen =>
    rw [devnullLoop, if_pos hk3] at h
    split at h
    · cases h
    · next e => rw [hopen] at e; cases e
  | case2 t soft k hk3 fd₁ t₁ hopen ih =>
    rw [devnullLoop, if_pos hk3] at h
    split at h
    · next e => rw [hopen] at e; cases e
    · next e =>
      rw [hopen] at e
      cases e
      obtain ⟨hop₁, hfree₁, hframe₁⟩ := osOpen_spec hopen
      obtain ⟨hstop, hfree, hop, hfd, hframe⟩ := ih h hop₁
      -- the loop stops at the first descriptor above `2`, so it differs from `fd₁` only if
      -- `fd₁` is one of `0`, `1`, `2`
      have hne : ∀ n, 3 ≤ n → n ≠ fd → n ≠ fd₁ := fun n hn hne e => hne (e ▸ (hstop (e ▸ hn)).1.symm)
      refine ⟨fun h3 => absurd h3 (by omega), fun _ => ?_, hop, hfd, fun n hn hn' => ?_⟩
      · by_cases h₁ : fd₁ < 3
        · rw [← hframe₁ fd (by omega), hfree h₁]
        · rwa [(hstop (by omega)).1]
      · rw [hframe n hn hn', hframe₁ n (hne n hn hn')]
  | case3 t soft k hk3 =>
    rw [devnullLoop, if_neg hk3] at h
    cases h
    exact ⟨fun _ => ⟨rfl, rfl⟩, fun h3 => absurd h3 hk3, hk, by omega, fun _ _ _ => rfl⟩

/-- The stretch before `os.pipe` leaves `/dev/null` open on a descriptor above `2` that
was closed in the manager, and changes nothing else above `2`. -/
theorem openDevnull_spec {t t' : Fds} {soft fd : Nat} (h : openDevnull t soft = .ok (fd, t')) :
    Opened t' soft fd ∧ 3 ≤ fd ∧ t.get fd = none ∧ ∀ n, 3 ≤ n → n ≠ fd → t'.get n = t.get n := by
  simp only [openDevnull, except_bind_eq_ok, orStop_eq_ok, Prod.exists] at h
  obtain ⟨fd₀, t₀, h₀, h₁⟩ := h
  obtain ⟨hop₀, hfree₀, hframe₀⟩ := osOpen_spec h₀
  obtain ⟨hstop, hfree, hop, h3, hframe⟩ := devnullLoop_spec h₁ hop₀
  have hne : ∀ n, 3 ≤ n → n ≠ fd → n ≠ fd₀ := fun n hn hne e => hne (e ▸ (hstop (e ▸ hn)).1.symm)
  refine ⟨hop, h3, ?_, fun n hn hn' => by rw [hframe n hn hn', hframe₀ n (hne n hn hn')]⟩
  by_cases h₀ : fd₀ < 3
  · rw [← hframe₀ fd (by omega), hfree h₀]
  · rwa [(hstop (by omega)).1]

theorem openDevnull_error {t : Fds} {soft : Nat} {e : StdioStop} (h : openDevnull t soft = .error e) :
    e = .raised "os.open(os.devnull)" := by
  unfold openDevnull at h
  cases h₀ : osOpen t soft with
  | none => simp only [h₀, orStop_none, except_error_bind, Except.error.injEq] at h; exact h.symm
  | some p =>
    cases h₁ : devnullLoop p.2 soft p.1 <;>
      simp only [h₀, h₁, orStop_some, orStop_none, pure_bind, Except.error.injEq] at h
    · exact h.symm
    · cases h

/-! ## The pipe -/

/-- What `os.pipe` leaves for the redirection: `/dev/null` at `nullFd` and the pipe's ends
at `r` and `w`, in this order above `2`, none of them inheritable. -/
structure PipeReady (t : Fds) (nullFd r w : Nat) : Prop where
  get_null : t.get nullFd = some ⟨.devnull, false⟩
  get_r : t.get r = some ⟨.pipeRead, false⟩
  get_w : t.get w = some ⟨.pipeWrite, false⟩
  three_le_null : 3 ≤ nullFd
  null_lt_r : nullFd < r
  r_lt_w : r < w

theorem osPipe_spec {t t' : Fds} {soft nullFd r w : Nat} (h : osPipe t soft = some (r, w, t'))
    (hn : Opened t soft nullFd) (h3 : 3 ≤ nullFd) :
    PipeReady t' nullFd r w ∧ t.get r = none ∧ t.get w = none ∧
      ∀ n, n ≠ r → n ≠ w → t'.get n = t.get n := by
  dsimp only [osPipe] at h
  split at h
  · next hw =>
    cases h
    have hr := t.lt_lowestFree (by simp [hn.get_fd]) hn.below
    have hrw : t.lowestFree < (t.set t.lowestFree ⟨.pipeRead, false⟩).lowestFree :=
      Fds.lt_lowestFree _ (by simp) fun m hm => by
        simpa [Nat.ne_of_lt hm] using t.get_of_lt_lowestFree hm
    refine ⟨⟨?_, ?_, by simp, h3, hr, hrw⟩, t.get_lowestFree, ?_, fun n hr hw => by simp [hr, hw]⟩
    · simp [Nat.ne_of_lt hr, Nat.ne_of_lt (Nat.lt_trans hr hrw), hn.get_fd]
    · simp [Nat.ne_of_lt hrw]
    · simpa [(Nat.ne_of_lt hrw).symm] using (t.set t.lowestFree ⟨.pipeRead, false⟩).get_lowestFree
  · cases h

/-! ## The redirection -/

theorem redirectStdio_eq {t : Fds} {soft cap nullFd r w : Nat} {bytes : List UInt8}
    (h : PipeReady t nullFd r w) (hsoft : 3 ≤ soft) :
    redirectStdio t soft cap nullFd r w bytes =
      if bytes.length ≤ cap then
        .ok ((((((t.set 0 ⟨.pipeRead, true⟩).close r).set 1 ⟨.devnull, true⟩).set 2
          ⟨.devnull, true⟩).close nullFd).close w, bytes)
      else .error .blocked := by
  have := h.three_le_null; have := h.null_lt_r; have := h.r_lt_w
  have hne : r ≠ 0 ∧ nullFd ≠ 1 ∧ nullFd ≠ 2 ∧ nullFd ≠ 0 ∧ nullFd ≠ r ∧ w ≠ 0 ∧ w ≠ 1 ∧ w ≠ 2 ∧
      w ≠ r ∧ w ≠ nullFd := by omega
  simp only [redirectStdio, osDup2, h.get_r, show 0 < soft by omega, ↓reduceIte, hne, orStop_some,
    osClose, osFdopen, show 1 < soft by omega, show 2 < soft by omega, pipeWrite, List.length_nil,
    zero_add, List.nil_append, bind_pure_comp, pure_bind, bne_self_eq_false, raiseAt_false,
    Fds.get_set, Option.isSome_some, Fds.get_close, h.get_null, h.get_w, map_pure]
  split <;> rfl

/-- The table the endpoint gets, when the document fits: the pipe's read end on `0`,
`/dev/null` on `1` and `2`, nothing from `3` below `hard`, and what the manager had from
`hard` on. -/
theorem execImage_redirected {t t₂ : Fds} {hard nullFd r w : Nat} (h : PipeReady t₂ nullFd r w)
    (hfree : ∀ n, n = nullFd ∨ n = r ∨ n = w → t.get n = none)
    (hframe : ∀ n, 3 ≤ n → n ≠ nullFd → n ≠ r → n ≠ w → t₂.get n = t.get n) (n : Nat) :
    execImage ((((((((t₂.set 0 ⟨.pipeRead, true⟩).close r).set 1 ⟨.devnull, true⟩).set 2
        ⟨.devnull, true⟩).close nullFd).close w).closeRange 3 hard)) n =
      if n = 0 then some .pipeRead else if n < 3 then some .devnull
      else if n < hard then none else execImage t n := by
  have := h.three_le_null; have := h.null_lt_r; have := h.r_lt_w
  simp only [execImage, Fds.get_closeRange, Fds.get_close, Fds.get_set]
  by_cases h0 : n = 0
  · simp [h0, show 0 ≠ w by omega, show 0 ≠ r by omega, show 0 ≠ nullFd by omega]
  by_cases h12 : n < 3
  · rcases (show n = 1 ∨ n = 2 by omega) with rfl | rfl <;>
      simp [show 1 ≠ w by omega, show 1 ≠ nullFd by omega, show 2 ≠ w by omega, show 2 ≠ nullFd by omega]
  by_cases hh : n < hard
  · simp [h0, h12, hh, show 3 ≤ n by omega]
  simp only [h0, h12, hh, show n ≠ 1 by omega, show n ≠ 2 by omega, and_false, if_false]
  by_cases hx : n = nullFd ∨ n = r ∨ n = w
  · rw [hfree n hx]
    rcases hx with rfl | rfl | rfl <;> simp
  · simp only [not_or] at hx
    simp only [hx, if_false, hframe n (by omega) hx.1 hx.2.1 hx.2.2]

/-! ## The whole setup -/

/-- Past `os.pipe`, the size check and the write decide how the setup ends. -/
theorem childStdio_of_pipe {t t₁ t₂ : Fds} {soft hard cap nullFd r w : Nat} {data : String}
    (ho : openDevnull t soft = .ok (nullFd, t₁)) (hp : osPipe t₁ soft = some (r, w, t₂)) :
    childStdio t soft hard cap data =
      if (cap : Int) - 256 < data.length then .error (.raised "stdin size check")
      else if (utf8 data).length ≤ cap then
        .ok ((((((((t₂.set 0 ⟨.pipeRead, true⟩).close r).set 1 ⟨.devnull, true⟩).set 2
          ⟨.devnull, true⟩).close nullFd).close w).closeRange 3 hard), utf8 data)
      else .error .blocked := by
  obtain ⟨hop, h3, -⟩ := openDevnull_spec ho
  obtain ⟨hready, -⟩ := osPipe_spec hp hop h3
  have hsoft : 3 ≤ soft := by have := hop.lt_soft; omega
  simp only [childStdio, ho, hp, orStop_some, except_ok_bind, pure_bind]
  by_cases hs : (cap : Int) - 256 < data.length
  · simp [hs]
  · simp only [hs, decide_False, raiseAt_false, pure_bind, if_false, redirectStdio_eq hready hsoft]
    split <;> rfl

/-- Short of the size check, only the two calls that allocate descriptors can stop the
setup. -/
theorem childStdio_early (t : Fds) (soft hard cap : Nat) (data : String) :
    childStdio t soft hard cap data = .error (.raised "os.open(os.devnull)") ∨
    childStdio t soft hard cap data = .error (.raised "os.pipe") ∨
    ∃ nullFd t₁ r w t₂, openDevnull t soft = .ok (nullFd, t₁) ∧ osPipe t₁ soft = some (r, w, t₂) := by
  rcases ho : openDevnull t soft with e | ⟨nullFd, t₁⟩
  · exact .inl (by simp [childStdio, ho, openDevnull_error ho])
  rcases hp : osPipe t₁ soft with _ | ⟨r, w, t₂⟩
  · exact .inr (.inl (by simp [childStdio, ho, hp]))
  · exact .inr (.inr ⟨_, _, _, _, _, rfl, hp⟩)

/-- Every run of the setup, from any descriptors the manager had open: one of the two
calls that allocate descriptors raises, the size check refuses the document, the write
blocks though the check passed, or the endpoint starts with the document on stdin,
`/dev/null` on stdout and stderr, and nothing else below the hard limit. -/
theorem childStdio_outcomes (t : Fds) (soft hard cap : Nat) (data : String) :
    childStdio t soft hard cap data = .error (.raised "os.open(os.devnull)") ∨
    childStdio t soft hard cap data = .error (.raised "os.pipe") ∨
    (childStdio t soft hard cap data = .error (.raised "stdin size check") ∧
      (cap : Int) - 256 < data.length) ∨
    (childStdio t soft hard cap data = .error .blocked ∧ (data.length : Int) ≤ cap - 256 ∧
      cap < (utf8 data).length) ∨
    ∃ t', childStdio t soft hard cap data = .ok (t', utf8 data) ∧
      ∀ n, execImage t' n = if n = 0 then some .pipeRead else if n < 3 then some .devnull
        else if n < hard then none else execImage t n := by
  rcases childStdio_early t soft hard cap data with h | h | ⟨nullFd, t₁, r, w, t₂, ho, hp⟩
  · exact .inl h
  · exact .inr (.inl h)
  obtain ⟨hop, h3, hfree₁, hframe₁⟩ := openDevnull_spec ho
  obtain ⟨hready, hr, hw, hframe₂⟩ := osPipe_spec hp hop h3
  have := hready.null_lt_r; have := hready.r_lt_w
  rw [childStdio_of_pipe ho hp]
  by_cases hs : (cap : Int) - 256 < data.length
  · simp [hs]
  by_cases hb : (utf8 data).length ≤ cap
  · refine .inr (.inr (.inr (.inr ⟨_, by simp [hs, hb], execImage_redirected hready ?_ ?_⟩)))
    · rintro n (rfl | rfl | rfl)
      · exact hfree₁
      · rwa [← hframe₁ n (by omega) (by omega)]
      · rwa [← hframe₁ n (by omega) (by omega)]
    · intro n hn h₀ hr hw
      rw [hframe₂ n hr hw, hframe₁ n hn h₀]
  · exact .inr (.inr (.inr (.inl ⟨by simp [hs, hb], by omega, by omega⟩)))

/-- The write blocks only after the size check has passed, on more bytes than the pipe
holds. -/
theorem childStdio_blocked {t : Fds} {soft hard cap : Nat} {data : String}
    (h : childStdio t soft hard cap data = .error .blocked) :
    (data.length : Int) ≤ cap - 256 ∧ cap < (utf8 data).length := by
  rcases childStdio_early t soft hard cap data with h' | h' | ⟨nullFd, t₁, r, w, t₂, ho, hp⟩
  · rw [h] at h'; cases h'
  · rw [h] at h'; cases h'
  rw [childStdio_of_pipe ho hp] at h
  split_ifs at h with hs hb
  · cases h
  · exact ⟨by omega, by omega⟩

/-- The document of lines 971-975 never blocks the child: `json.dumps` writes one byte a
character, so the size check in characters keeps the bytes within the pipe. -/
theorem stdinDocument_never_blocks {kwargs : Json} {userConfig data : String}
    (h : stdinDocument kwargs userConfig = .ok data) (t : Fds) (soft hard cap : Nat) :
    childStdio t soft hard cap data ≠ .error .blocked := by
  intro hb
  obtain ⟨hs, hbytes⟩ := childStdio_blocked hb
  simp only [stdinDocument, except_bind_eq_ok] at h
  obtain ⟨_, -, h⟩ := h
  cases h
  rw [length_utf8_dumps] at hbytes
  omega

/-- A manager with only its standard descriptors open, all inheritable. -/
def stdFds : Fds where
  get n := if n < 3 then some ⟨.inherited n, true⟩ else none
  top := 3
  closed_above _ h := if_neg (Nat.not_lt.2 h)

theorem stdinDocument_never_blocks_std :
    childStdio stdFds 1024 4096 300
        "\x7b\"amqp_creds\": \"amqps://\", \"config\": \"engine: GlobusComputeEngine\"\x7d" ≠
      .error .blocked :=
  stdinDocument_never_blocks
    (show stdinDocument (.obj [("amqp_creds", .str "amqps://")]) "engine: GlobusComputeEngine" =
      .ok "\x7b\"amqp_creds\": \"amqps://\", \"config\": \"engine: GlobusComputeEngine\"\x7d" from rfl)
    stdFds 1024 4096 300

/-! ## Room enough -/

theorem osOpen_room {t : Fds} {soft K : Nat} (hK : t.get K = none) (hsoft : K < soft) :
    ∃ fd t', osOpen t soft = some (fd, t') ∧ fd ≤ K :=
  have hle := t.lowestFree_le hK
  ⟨_, _, if_pos (by omega), hle⟩

/-- While the loop runs, every descriptor from `K` on but the one it just opened is
closed, so each `os.open` returns at most `K`. -/
theorem devnullLoop_room {t : Fds} {soft K k : Nat} (hK : ∀ n, K ≤ n → n ≠ k → t.get n = none)
    (hk : k ≤ K) (hK3 : 3 ≤ K) (hsoft : K < soft) :
    ∃ fd t', devnullLoop t soft k = some (fd, t') ∧ fd ≤ K := by
  induction t, soft, k using devnullLoop.induct with
  | case1 t soft k hk3 hopen =>
    obtain ⟨_, _, h, -⟩ := osOpen_room (hK K le_rfl (by omega)) hsoft
    rw [hopen] at h
    cases h
  | case2 t soft k hk3 fd₁ t₁ hopen ih =>
    obtain ⟨-, -, hframe₁⟩ := osOpen_spec hopen
    obtain ⟨fd₁', t₁', h₁, hle⟩ := osOpen_room (hK K le_rfl (by omega)) hsoft
    rw [hopen] at h₁
    cases h₁
    obtain ⟨fd, t', hl, hfd⟩ :=
      ih (fun n hn hne => by rw [hframe₁ n hne]; exact hK n hn (by omega)) hle hsoft
    refine ⟨fd, t', ?_, hfd⟩
    rw [devnullLoop, if_pos hk3]
    split
    · next e => rw [hopen] at e; cases e
    · next e => rw [hopen] at e; cases e; exact hl
  | case3 t soft k hk3 =>
    exact ⟨k, t, by rw [devnullLoop, if_neg hk3], hk⟩

theorem openDevnull_room {t : Fds} {soft K : Nat} (hK : ∀ n, K ≤ n → t.get n = none) (hK3 : 3 ≤ K)
    (hsoft : K < soft) : ∃ fd t', openDevnull t soft = .ok (fd, t') ∧ fd ≤ K := by
  obtain ⟨fd₀, t₀, h₀, hle⟩ := osOpen_room (hK K le_rfl) hsoft
  obtain ⟨-, -, hframe₀⟩ := osOpen_spec h₀
  obtain ⟨fd, t', hl, hfd⟩ :=
    devnullLoop_room (fun n hn hne => by rw [hframe₀ n hne]; exact hK n hn) hle hK3 hsoft
  exact ⟨fd, t', by simp only [openDevnull, h₀, hl, orStop_some, pure_bind]; rfl, hfd⟩

theorem osPipe_room {t : Fds} {soft K : Nat} (hK : ∀ n, K ≤ n → t.get n = none) (hsoft : K + 2 ≤ soft) :
    ∃ r w t', osPipe t soft = some (r, w, t') := by
  have hr := t.lowestFree_le (hK K le_rfl)
  have hw := Fds.lowestFree_le (t.set t.lowestFree ⟨.pipeRead, false⟩)
    (show (t.set t.lowestFree ⟨.pipeRead, false⟩).get (K + 1) = none by
      simp [show K + 1 ≠ t.lowestFree by omega, hK])
  exact ⟨_, _, _, if_pos (by omega)⟩

/-- With every descriptor from `K` on closed, three more below the soft limit, and a
document that passes the size check and fits the pipe, the setup reaches `os.execvpe`
with the document in the pipe. -/
theorem childStdio_ok_of_room {t : Fds} {soft hard cap K : Nat} {data : String}
    (hK : ∀ n, K ≤ n → t.get n = none) (hK3 : 3 ≤ K) (hsoft : K + 3 ≤ soft)
    (hsize : (data.length : Int) + 256 ≤ cap) (hbytes : (utf8 data).length ≤ cap) :
    ∃ t', childStdio t soft hard cap data = .ok (t', utf8 data) := by
  have hKs : K < soft := by omega
  have hKs₁ : K + 1 + 2 ≤ soft := by omega
  obtain ⟨nullFd, t₁, ho, hle⟩ := openDevnull_room hK hK3 hKs
  obtain ⟨-, -, -, hframe⟩ := openDevnull_spec ho
  have hK₁ : ∀ n, K + 1 ≤ n → t₁.get n = none := fun n hn => by
    rw [hframe n (by omega) (by omega)]; exact hK n (by omega)
  obtain ⟨r, w, t₂, hp⟩ := osPipe_room hK₁ hKs₁
  rw [childStdio_of_pipe ho hp, if_neg (by omega), if_pos hbytes]
  exact ⟨_, rfl⟩

theorem childStdio_ok_of_room_std :
    ∃ t', childStdio stdFds 1024 4096 65536 "{}" = .ok (t', utf8 "{}") :=
  childStdio_ok_of_room (fun n hn => if_neg (Nat.not_lt.2 hn)) (le_refl 3) (by decide) (by decide)
    (by decide)

/-! ## What the parent reads from the exit code -/

/-- Only the two calls that allocate descriptors and the size check raise out of the
setup. -/
theorem childStdio_raised {t : Fds} {soft hard cap : Nat} {data n : String}
    (h : childStdio t soft hard cap data = .error (.raised n)) :
    n = "os.open(os.devnull)" ∨ n = "os.pipe" ∨ n = "stdin size check" := by
  rcases childStdio_early t soft hard cap data with h' | h' | ⟨nullFd, t₁, r, w, t₂, ho, hp⟩
  · rw [h] at h'; cases h'; exact .inl rfl
  · rw [h] at h'; cases h'; exact .inr (.inl rfl)
  rw [childStdio_of_pipe ho hp] at h
  split_ifs at h
  · cases h; exact .inr (.inr rfl)
  · cases h

/-- The statements after the size check: their calls are all calls of the setup, other
than the three that can raise, and they hold seven `exit_code += 1`. -/
theorem redirection_stmts (changeIds : Bool) :
    bumps ((childPipeline changeIds).take (if changeIds then 32 else 26)) =
        6 + (if changeIds then 3 else 0) ∧
      bumps ((childPipeline changeIds).drop (if changeIds then 32 else 26)) = 7 ∧
      ∀ n ∈ callsOf ((childPipeline changeIds).drop (if changeIds then 32 else 26)),
        n ∈ stdioCalls ∧ n ≠ "os.open(os.devnull)" ∧ n ≠ "os.pipe" ∧ n ≠ "stdin size check" := by
  cases changeIds <;> decide

/-- Whatever the manager had open and whatever the other calls do, a child never exits
with `77` to `82` (`80` to `85` when it changes its ids): those are the codes of the
redirection, the write into the pipe, `getrlimit` and `closerange`, none of which
raises. A code above `76` (`79`) is `83` (`86`): `os.execvpe` raised. -/
theorem childEnd_skips_redirection_codes {changeIds : Bool} {raises : String → Bool} {t : Fds}
    {soft hard cap code : Nat} {data : String}
    (h : childEnd changeIds (stdioRaises (childStdio t soft hard cap data) raises) = .exit code) :
    code ≤ 76 + (if changeIds then 3 else 0) ∨ code = 83 + (if changeIds then 3 else 0) := by
  obtain ⟨hA, hB, hcalls⟩ := redirection_stmts changeIds
  have hquiet : ∀ n ∈ callsOf ((childPipeline changeIds).drop (if changeIds then 32 else 26)),
      stdioRaises (childStdio t soft hard cap data) raises n = false := by
    intro n hn
    obtain ⟨hs, h₁, h₂, h₃⟩ := hcalls n hn
    simp only [stdioRaises, if_pos hs]
    split
    · next m hm =>
      exact beq_false_of_ne fun e => by
        subst e; rcases childStdio_raised hm with rfl | rfl | rfl <;> contradiction
    · rfl
  unfold childEnd at h
  rw [← List.take_append_drop (if changeIds then 32 else 26) (childPipeline changeIds),
    runSteps_append] at h
  cases hr : runSteps (stdioRaises (childStdio t soft hard cap data) raises)
      ((childPipeline changeIds).take (if changeIds then 32 else 26)) 70 with
  | error c =>
    rw [hr] at h
    cases h
    have := runSteps_error_le hr
    omega
  | ok c =>
    obtain ⟨-, rfl⟩ := runSteps_eq_ok.1 hr
    rw [hr, except_ok_bind, runSteps_eq_ok.2 ⟨hquiet, rfl⟩] at h
    cases hx : stdioRaises (childStdio t soft hard cap data) raises "os.execvpe" <;>
      simp only [hx, if_true, Bool.false_eq_true, if_false, reduceCtorEq, ChildEnd.exit.injEq] at h
    omega

/-- With the soft limit at `3` and the standard descriptors open, `os.open(os.devnull)`
has no descriptor left: the child exits with `75`. -/
theorem childEnd_skips_redirection_codes_std :
    childEnd false (stdioRaises (childStdio stdFds 3 4096 65536 "engine: {}") fun _ => false) =
        .exit 75 ∧
      (75 ≤ 76 + (if false = true then 3 else 0) ∨ 75 = 83 + (if false = true then 3 else 0)) :=
  have h : childEnd false (stdioRaises (childStdio stdFds 3 4096 65536 "engine: {}") fun _ => false) =
      .exit 75 := by decide
  ⟨h, childEnd_skips_redirection_codes h⟩

end EndpointManager
