import Mvr.RtspPipe.Basic

/-!
# What a push leaves in the pipe

The loop adds the bytes `write` has accepted, a prefix of the package (`pushLoop_eq_ok`), and it
accepts all of them exactly when no call fails (`accepted_eq_iff`).  So a push adds its package,
nothing if the first call fails, and a proper prefix if a later call does; the prefix stays in the
pipe, and the next package follows it.  `wholePackages_iff` puts the pushes of a run together.
-/

namespace Mvr.RtspPipe

/-- The bytes that `write` accepts from the `k`-th call on, if `n` are left. -/
def Writer.accepted (write : Writer) : ℕ → ℕ → ℕ → ℕ
  | 0, _, _ => 0
  | fuel + 1, k, n =>
    if 0 < n ∧ 1 ≤ (write k n).val then
      (write k n).val.toNat + write.accepted fuel (k + 1) (n - (write k n).val.toNat)
    else
      0

theorem accepted_succ {write : Writer} (fuel : ℕ) {k n : ℕ} (hn : 0 < n) (h : 1 ≤ (write k n).val) :
    write.accepted (fuel + 1) k n =
      (write k n).val.toNat + write.accepted fuel (k + 1) (n - (write k n).val.toNat) :=
  if_pos ⟨hn, h⟩

theorem accepted_zero (write : Writer) (fuel k : ℕ) : write.accepted fuel k 0 = 0 := by
  cases fuel with
  | zero => rfl
  | succ fuel => exact if_neg (by simp)

theorem accepted_of_eq_neg_one {write : Writer} {k n : ℕ} (h : (write k n).val = -1) (fuel : ℕ) :
    write.accepted fuel k n = 0 := by
  cases fuel with
  | zero => rfl
  | succ fuel => exact if_neg (by rw [h]; simp)

theorem accepted_le (write : Writer) (fuel k n : ℕ) : write.accepted fuel k n ≤ n := by
  induction fuel generalizing k n with
  | zero => exact Nat.zero_le n
  | succ fuel ih =>
    rcases Nat.eq_zero_or_pos n with rfl | hn
    · rw [accepted_zero]
    · rcases (write k n).property with hfail | ⟨hle, hn'⟩
      · rw [accepted_of_eq_neg_one hfail]
        exact Nat.zero_le n
      · rw [accepted_succ fuel hn hle]
        have hrest := ih (k + 1) (n - (write k n).val.toNat)
        omega

/-- Everything is accepted exactly when no call fails. -/
theorem accepted_eq_iff (write : Writer) (k : ℕ) {fuel n : ℕ} (hfuel : n ≤ fuel) :
    write.accepted fuel k n = n ↔ ¬ write.Fails k n := by
  induction fuel generalizing k n with
  | zero =>
    obtain rfl : n = 0 := by omega
    refine iff_of_true rfl ?_
    rintro (⟨hn, -⟩ | ⟨hn, -, -⟩) <;> exact absurd hn (lt_irrefl 0)
  | succ fuel ih =>
    rcases Nat.eq_zero_or_pos n with rfl | hn
    · refine iff_of_true (accepted_zero ..) ?_
      rintro (⟨hn, -⟩ | ⟨hn, -, -⟩) <;> exact absurd hn (lt_irrefl 0)
    · rcases (write k n).property with hfail | ⟨hle, hn'⟩
      · rw [accepted_of_eq_neg_one hfail]
        exact iff_of_false (by omega) (not_not_intro (.now hn hfail))
      · have hrest := ih (k + 1) (show n - (write k n).val.toNat ≤ fuel by omega)
        rw [accepted_succ fuel hn hle]
        constructor
        · intro hall hfails
          cases hfails with
          | now _ hfail => omega
          | later _ _ hlater => exact hrest.mp (by omega) hlater
        · intro hnot
          have hlater := hrest.mpr fun hlater => hnot (.later hn hle hlater)
          omega

/-- With fuel for the bytes that are left, the loop returns, and has added the accepted ones. -/
theorem pushLoop_eq_ok (write : Writer) (k : ℕ) {buff : List UInt8} {fuel off len : ℕ}
    (hlen : off + len = buff.length) (hfuel : len ≤ fuel) (pipe : List UInt8) :
    pushLoop write buff fuel k off len pipe =
      .ok (pipe ++ (buff.drop off).take (write.accepted fuel k len)) := by
  induction fuel generalizing k off len pipe with
  | zero =>
    obtain rfl : len = 0 := by omega
    simp [pushLoop, accepted_zero]
  | succ fuel ih =>
    unfold pushLoop
    rcases Nat.eq_zero_or_pos len with rfl | hpos
    · simp [accepted_zero]
    · rw [if_pos (by omega), Int.toNat_natCast]
      dsimp only
      rcases (write k len).property with hfail | ⟨hle, hle'⟩
      · rw [if_pos (by omega), accepted_of_eq_neg_one hfail, List.take_zero, List.append_nil]
      · -- the next iteration sees the rest of the package
        obtain ⟨w, hw⟩ := Int.eq_ofNat_of_zero_le (show 0 ≤ (write k len).val by omega)
        have hoff : (off : ℤ) + (write k len).val = ((off + w : ℕ) : ℤ) := by omega
        have hrest : (len : ℤ) - (write k len).val = ((len - w : ℕ) : ℤ) := by omega
        rw [if_neg (by omega), hoff, hrest, ih (k + 1) (by omega) (by omega),
          accepted_succ fuel hpos hle, hw, Int.toNat_natCast, Int.toNat_natCast, List.take_add,
          List.drop_drop, List.append_assoc]

/-! ### One push -/

namespace Push

/-- What the push adds to the pipe. -/
def added (fuel : ℕ) (p : Push) : List UInt8 :=
  p.buff.take (p.write.accepted fuel 0 p.buff.length)

/-- A push adds its package or nothing unless the package is cut short. -/
theorem added_iff {fuel : ℕ} {p : Push} (hfuel : p.buff.length ≤ fuel) :
    p.added fuel = p.buff ∨ p.added fuel = [] ↔ ¬ p.CutShort := by
  have hle := accepted_le p.write fuel 0 p.buff.length
  have hbuff : p.added fuel = p.buff ↔ p.write.accepted fuel 0 p.buff.length = p.buff.length := by
    unfold added
    rw [List.take_eq_self_iff]
    exact ⟨fun h => le_antisymm hle h, fun h => h.ge⟩
  rw [hbuff]
  unfold CutShort added
  rcases Nat.eq_zero_or_pos p.buff.length with hzero | hpos
  · refine iff_of_true (Or.inl (by omega)) fun hcut => ?_
    have := hcut.1
    omega
  · rcases (p.write 0 p.buff.length).property with hfail | ⟨hone, hle'⟩
    · refine iff_of_true (Or.inr ?_) fun hcut => ?_
      · rw [accepted_of_eq_neg_one hfail, List.take_zero]
      · have := hcut.2.1
        omega
    · -- something was accepted, so that all of it has to be
      obtain ⟨fuel, rfl⟩ := Nat.exists_eq_add_one_of_ne_zero (show fuel ≠ 0 by omega)
      have hsucc := accepted_succ fuel hpos hone
      have hrest := accepted_eq_iff p.write 1
        (show p.buff.length - (p.write 0 p.buff.length).val.toNat ≤ fuel by omega)
      have hne : p.buff.take (p.write.accepted (fuel + 1) 0 p.buff.length) ≠ [] := by
        rw [ne_eq, List.take_eq_nil_iff, not_or]
        exact ⟨by omega, List.ne_nil_of_length_pos hpos⟩
      rw [or_iff_left hne]
      constructor
      · rintro hall ⟨-, -, hfails⟩
        exact hrest.mp (by rw [zero_add] at hsucc; omega) hfails
      · intro hnot
        have hlater := hrest.mpr fun hfails => hnot ⟨hpos, hone, hfails⟩
        rw [zero_add] at hsucc
        omega

end Push

/-! ### A sequence of pushes -/

variable {push : List UInt8 → Push → Checked (List UInt8)} {fuel : ℕ} {pushes : List Push}

/-- The pipe after pushes that each add their own bytes. -/
theorem foldlM_push (h : ∀ pipe, ∀ p ∈ pushes, push pipe p = .ok (pipe ++ p.added fuel))
    (pipe : List UInt8) :
    pushes.foldlM push pipe = .ok (pipe ++ (pushes.map (Push.added fuel)).flatten) := by
  rw [Checked.foldlM_eq_ok (g := fun pipe p => pipe ++ p.added fuel) pipe h,
    List.foldl_append_eq_append]

/-- The calls return and leave whole packages exactly when no package is cut short. -/
theorem wholePackages_iff_of_added (hfuel : ∀ p ∈ pushes, p.buff.length ≤ fuel)
    (h : ∀ pipe, ∀ p ∈ pushes, push pipe p = .ok (pipe ++ p.added fuel)) :
    WholePackages push pushes ↔ ∀ p ∈ pushes, ¬ p.CutShort := by
  have hrun : ∀ n, (pushes.take n).foldlM push [] =
      .ok ((pushes.map (Push.added fuel)).take n).flatten := fun n => by
    rw [foldlM_push fun pipe p hp => h pipe p (List.mem_of_mem_take hp), List.nil_append,
      List.map_take]
  have hwhole : ∀ stream : ℕ → List UInt8,
      (∀ n ≤ pushes.length, stream n = ((pushes.map (Push.added fuel)).take n).flatten) →
        (Framing.Whole (pushes.map Push.buff) stream ↔ ∀ p ∈ pushes, ¬ p.CutShort) := by
    intro stream hstream
    rw [Framing.whole_iff (pushes.map (Push.added fuel)) (by simp) (by simpa using hstream),
      List.forall₂_map_left_iff, List.forall₂_map_right_iff, List.forall₂_same]
    exact forall₂_congr fun p hp => Push.added_iff (hfuel p hp)
  constructor
  · rintro ⟨stream, hstream, hframes⟩
    refine (hwhole stream fun n hn => ?_).mp hframes
    have heq := (hstream n hn).symm.trans (hrun n)
    injection heq
  · intro hall
    exact ⟨_, fun n _ => hrun n, (hwhole _ fun n _ => rfl).mpr hall⟩

namespace VideoPipeServerMediaSubsession

theorem pushPkg_eq_ok {p : Push} (hfuel : p.buff.length ≤ fuel) (mPipe : List UInt8) :
    pushPkg fuel mPipe p = .ok (mPipe ++ p.added fuel) :=
  pushLoop_eq_ok p.write 0 (Nat.zero_add _) hfuel mPipe

end VideoPipeServerMediaSubsession

namespace RTSPH264PassiveServer

/-- `pushData` of the passive server is `pushPkg`, and reports success whatever happened. -/
theorem pushData_eq (fuel : ℕ) (mPipe : List UInt8) (p : Push) :
    pushData fuel mPipe p =
      (fun pipe => (0, pipe)) <$> VideoPipeServerMediaSubsession.pushPkg fuel mPipe p := rfl

end RTSPH264PassiveServer

namespace RTSPOnDemandServer

/-- The on-demand server pushes into its subsession, if there is one, and reports success. -/
theorem pushData_eq_ok {p : Push} (hfuel : p.buff.length ≤ fuel)
    (mSubSersion : Option (List UInt8)) :
    pushData fuel mSubSersion p = .ok (0, mSubSersion.map (· ++ p.added fuel)) := by
  cases mSubSersion with
  | none => rfl
  | some mPipe =>
    unfold pushData
    dsimp only
    rw [VideoPipeServerMediaSubsession.pushPkg_eq_ok hfuel]
    rfl

end RTSPOnDemandServer

/-- For every sequence of packages and every behaviour of `write`, all calls return; and the pipe
holds whole packages after each of them exactly when no package is cut short by a failure. -/
theorem wholePackages_iff (hfuel : ∀ p ∈ pushes, p.buff.length ≤ fuel) :
    (∀ p ∈ pushes, ∀ pipe, (VideoPipeServerMediaSubsession.pushPkg fuel pipe p).IsOk ∧
      (RTSPH264PassiveServer.pushData fuel pipe p).IsOk) ∧
    (WholePackages (VideoPipeServerMediaSubsession.pushPkg fuel) pushes ↔
      ∀ p ∈ pushes, ¬ p.CutShort) ∧
    (WholePackages (fun pipe p => Prod.snd <$> RTSPH264PassiveServer.pushData fuel pipe p) pushes ↔
      ∀ p ∈ pushes, ¬ p.CutShort) := by
  have hpkg : ∀ pipe, ∀ p ∈ pushes,
      VideoPipeServerMediaSubsession.pushPkg fuel pipe p = .ok (pipe ++ p.added fuel) :=
    fun pipe p hp => VideoPipeServerMediaSubsession.pushPkg_eq_ok (hfuel p hp) pipe
  have hdata : ∀ pipe, ∀ p ∈ pushes,
      RTSPH264PassiveServer.pushData fuel pipe p = .ok (0, pipe ++ p.added fuel) := by
    intro pipe p hp
    rw [RTSPH264PassiveServer.pushData_eq, hpkg pipe p hp]
    rfl
  refine ⟨fun p hp pipe => ⟨⟨_, hpkg pipe p hp⟩, ⟨_, hdata pipe p hp⟩⟩,
    wholePackages_iff_of_added hfuel hpkg, wholePackages_iff_of_added hfuel fun pipe p hp => ?_⟩
  rw [hdata pipe p hp]
  rfl

/-! ### A failure in the middle of a package -/

/-- A pipe that accepts at most two bytes at a time, and fails at the `fails`-th call. -/
def twoBytes (fails : ℕ) : Writer := fun k n =>
  if h : k ≠ fails ∧ 1 ≤ n then
    ⟨min 2 n, by omega⟩
  else
    ⟨-1, Or.inl rfl⟩

/-- Pushes of the start codes of two packages, the second of which fails at once. -/
theorem wholePackages_failAtOnce :
    WholePackages (VideoPipeServerMediaSubsession.pushPkg 5)
      [⟨[0, 0, 0, 1, 0x67], twoBytes 5⟩, ⟨[0, 0, 0, 1, 0x68], twoBytes 0⟩] := by
  refine (wholePackages_iff (by simp)).2.1.mpr ?_
  intro p hp
  simp only [List.mem_cons, List.not_mem_nil, or_false] at hp
  rcases hp with rfl | rfl
  · -- two, two and one bytes are accepted
    rintro ⟨-, -, hfails⟩
    rcases hfails with ⟨-, hfail⟩ | ⟨-, -, hfails⟩
    · exact absurd hfail (by decide)
    rcases hfails with ⟨-, hfail⟩ | ⟨-, -, hfails⟩
    · exact absurd hfail (by decide)
    rcases hfails with ⟨hn, -⟩ | ⟨hn, -, -⟩ <;> exact absurd hn (by decide)
  · rintro ⟨-, hone, -⟩
    exact absurd hone (by decide)

/-- Two of four bytes are accepted, then `write` fails: the two bytes stay in the pipe. -/
theorem pushPkg_cutShort :
    ¬ WholePackages (VideoPipeServerMediaSubsession.pushPkg 4) [⟨[0, 0, 0, 1], twoBytes 1⟩] := by
  rintro ⟨stream, hstream, parts, hparts, hflatten⟩
  have hpipe : stream 1 = [0, 0] := by
    have hrun : (.ok [0, 0] : Checked (List UInt8)) = .ok (stream 1) := hstream 1 (by simp)
    injection hrun with hrun
    exact hrun.symm
  cases hparts with
  | cons hpart hnil =>
    cases hnil
    have hstream₁ := hflatten 1 (by simp)
    rw [hpipe] at hstream₁
    rcases hpart with rfl | rfl <;> exact absurd hstream₁ (by decide)

end Mvr.RtspPipe
