import Mvr.Factory.Equiv

/-!
# How often the `init` callbacks run

`init` marks the registration as complete only at the end of its pass.  A pass that comes to a
descriptor of a class without an instance creates the instance, and this starts a nested pass over
all descriptors, which runs every callback, before the outer pass goes on and runs the rest of them
again.  So there is one pass for the factory that is looked up first and one for every other class
that has descriptors (`passes`), and each of them runs each callback (`count_initCalls_lookups`).

The proof keeps the sum of the calls made and of those that the nested passes to come will make
(`callsDue`): a step of a pass adds to it just the callback of its own descriptor, whether or not a
nested pass happens there.
-/

namespace Mvr.Factory

/-- The descriptors with an `init` callback. -/
def withInit (ds : List ElementDescriptor) : List ElementDescriptor :=
  ds.filter fun d => d.init.isSome

/-- The factory classes that have descriptors. -/
def ownerClasses (owner : String → Option ℕ) (ds : List ElementDescriptor) : Finset ℕ :=
  (ds.filterMap fun d => owner d.factoryName).toFinset

/-- The class of the first name of a list under which a factory is registered. -/
def firstClass (owner : String → Option ℕ) (names : List String) : Option ℕ :=
  names.findSome? owner

/-- The number of passes over the descriptors when a list of names is looked up. -/
def passes (owner : String → Option ℕ) (ds : List ElementDescriptor) (names : List String) : ℕ :=
  match firstClass owner names with
  | none => 0
  | some c => ((ownerClasses owner ds).erase c).card + 1

/-- Every `init` callback was called once for each descriptor it was registered with. -/
def Statics.InitialisedOnce (s : Statics) (ds : List ElementDescriptor) : Prop :=
  s.initCalls.Perm (withInit ds)

variable {owner : String → Option ℕ} {ds : List ElementDescriptor} {m : ℕ} {s : Statics}

theorem mem_ownerClasses {c : ℕ} :
    c ∈ ownerClasses owner ds ↔ ∃ d ∈ ds, owner d.factoryName = some c := by
  unfold ownerClasses
  rw [List.mem_toFinset, List.mem_filterMap]

theorem mem_pending {classes : Finset ℕ} {c : ℕ} :
    c ∈ pending classes s ↔ c ∈ classes ∧ s.instances c = none := by
  unfold pending
  rw [Finset.mem_filter, Option.isNone_iff_eq_none]

/-- A complete registration has an instance of every class that has descriptors. -/
theorem pending_ownerClasses (h : Registered owner ds ds.length s) :
    pending (ownerClasses owner ds) s = ∅ := by
  rw [Finset.eq_empty_iff_forall_notMem]
  intro c hc
  obtain ⟨howner, hnone⟩ := mem_pending.mp hc
  obtain ⟨d, hd, hdc⟩ := mem_ownerClasses.mp howner
  have hsome := h.owners d (by rwa [List.take_length]) c hdc
  rw [hnone] at hsome
  cases hsome

/-- Creating the instance of a class takes the class out of those that are to be created. -/
theorem pending_create (classes : Finset ℕ) (s : Statics) (c : ℕ) :
    pending classes (create s c) = (pending classes s).erase c := by
  ext c'
  rw [Finset.mem_erase, mem_pending, mem_pending]
  rcases eq_or_ne c' c with rfl | hcc
  · simp
  · rw [create_instances_of_ne s hcc]
    exact ⟨fun h => ⟨hcc, h⟩, fun h => h.2⟩

theorem pending_congr {s' : Statics} (classes : Finset ℕ)
    (h : ∀ c, (s'.instances c).isSome = (s.instances c).isSome) :
    pending classes s' = pending classes s := by
  unfold pending
  apply Finset.filter_congr
  intro c _
  rw [← Option.not_isSome, ← Option.not_isSome, h]

/-- The callback of the descriptor is called, if there is one. -/
theorem count_initCalls_callInit (s : Statics) (d d' : ElementDescriptor) :
    (s.callInit d).initCalls.count d' = s.initCalls.count d' + (withInit [d]).count d' := by
  have hcalls : (s.callInit d).initCalls = s.initCalls ++ withInit [d] := by
    by_cases hsome : d.init.isSome <;> simp [Statics.callInit, withInit, hsome]
  rw [hcalls, List.count_append]

theorem count_initCalls_enterElement (s : Statics) (c : ℕ) (d d' : ElementDescriptor) :
    (enterElement s c d).initCalls.count d' =
      s.initCalls.count d' + (withInit [d]).count d' := by
  rw [← count_initCalls_callInit]
  unfold enterElement
  split_ifs <;> rfl

/-! ### One pass -/

/-- The calls of the callback of `d` that were made, with those of the nested passes to come. -/
def callsDue (owner : String → Option ℕ) (ds : List ElementDescriptor) (d : ElementDescriptor)
    (s : Statics) : ℕ :=
  s.initCalls.count d + (pending (ownerClasses owner ds) s).card * (withInit ds).count d

/-- A nested pass is still possible, or there is no class left to start one. -/
def Startable (owner : String → Option ℕ) (ds : List ElementDescriptor) (s : Statics) : Prop :=
  s.isInit = true → pending (ownerClasses owner ds) s = ∅

/-- `getInstance` calls no callback if the instance is there or the registration is complete.
Otherwise it calls those of its own pass and of the passes for the classes left to create. -/
structure Counts (owner : String → Option ℕ) (ds : List ElementDescriptor)
    (getInstance : Statics → ℕ → Checked Statics) (s : Statics) (c : ℕ) : Prop where
  present : (s.instances c).isSome → ∀ s', getInstance s c = .ok s' → s' = s
  complete : s.instances c = none → s.isInit = true →
    ∀ s', getInstance s c = .ok s' → s'.initCalls = s.initCalls
  starts : s.instances c = none → s.isInit = false → ∀ s', getInstance s c = .ok s' → ∀ d,
    s'.initCalls.count d = callsDue owner ds d (create s c) + (withInit ds).count d

variable {classes : Finset ℕ} {fuel : ℕ} {g : Statics → ℕ → Checked Statics}

/-- A lookup of a registered name is a call of `getInstance`, after the name was read. -/
theorem getInstance_of_lookup (h : Registered owner ds m s) {name : String} {c : ℕ}
    (hown : owner name = some c) {s' : Statics} {factory : Option ℕ}
    (hrun : getFactoryInstanceByName g s name = .ok (s', factory)) :
    g { s with factoryMap := (s.factoryMap.index name).1 } c = .ok s' := by
  have hnames := h.names name
  rw [hown, Option.map_eq_some_iff] at hnames
  obtain ⟨f, hptr, hclass⟩ := hnames
  unfold getFactoryInstanceByName at hrun
  rw [PtrMap.index_snd, hptr] at hrun
  simp only [hclass, Checked.bind_eq_ok] at hrun
  obtain ⟨s₁, hs₁, heq⟩ := hrun
  rw [hs₁, (Prod.mk.inj (Except.ok.inj heq)).1]

/-- Getting an instance makes no call due, whether or not it starts a nested pass. -/
theorem callsDue_getInstance {c : ℕ} (hcounts : Counts owner ds g s c)
    (hc : c ∈ ownerClasses owner ds) (hstart : Startable owner ds s) {s' : Statics}
    (hcall : g s c = .ok s')
    (hdone : s.instances c = none → pending (ownerClasses owner ds) s' = ∅)
    (d : ElementDescriptor) :
    callsDue owner ds d s' = callsDue owner ds d s ∧ Startable owner ds s' := by
  cases hinst : s.instances c with
  | some map =>
    -- the instance is there: nothing happens
    obtain rfl := hcounts.present (by rw [hinst]; rfl) s' hcall
    exact ⟨rfl, hstart⟩
  | none =>
    have hmem : c ∈ pending (ownerClasses owner ds) s := mem_pending.mpr ⟨hc, hinst⟩
    have hnot : s.isInit = false := by
      rw [← Bool.not_eq_true]
      intro hinit
      rw [hstart hinit] at hmem
      exact absurd hmem (Finset.notMem_empty c)
    -- the nested pass leaves no class to create, and made the calls due for this one
    have hcomplete := hdone hinst
    have hcalls := hcounts.starts hinst hnot s' hcall d
    have hcard := Finset.card_erase_add_one hmem
    refine ⟨?_, fun _ => hcomplete⟩
    unfold callsDue at hcalls ⊢
    rw [hcomplete, Finset.card_empty, Nat.zero_mul, Nat.add_zero, hcalls, pending_create, ← hcard,
      Nat.succ_mul]
    show s.initCalls.count d + _ + _ = _
    omega

/-- A step of a pass makes the call of its own descriptor due, and no other. -/
theorem callsDue_initStep (hg : Serves owner ds classes fuel g)
    (hcount : ∀ m s c, Registered owner ds m s → c ∈ classes →
      (pending classes s).card < fuel → Counts owner ds g s c)
    (h : Registered owner ds m s) {c : ℕ} {d : ElementDescriptor} (hd : d ∈ ds)
    (hown : owner d.factoryName = some c) (hc : c ∈ classes)
    (hfuel : (pending classes s).card < fuel) (hstart : Startable owner ds s) {s' : Statics}
    (hrun : initStep g s d = .ok s') (d' : ElementDescriptor) :
    callsDue owner ds d' s' = callsDue owner ds d' s + (withInit [d]).count d' ∧
      Startable owner ds s' := by
  obtain ⟨m₁, s₁, hlookup, hadv, -, hnew⟩ := getFactoryInstanceByName_of_some hg h hown hc hfuel
  unfold initStep at hrun
  rw [hlookup, Checked.ok_bind] at hrun
  dsimp only at hrun
  rw [registerElement_of_some] at hrun
  obtain rfl : enterElement s₁ c d = s' := Except.ok.inj hrun
  set s₀ : Statics := { s with factoryMap := (s.factoryMap.index d.factoryName).1 }
  have hcall : g s₀ c = .ok s₁ := getInstance_of_lookup h hown hlookup
  -- a new instance was registered completely
  have hdone : s₀.instances c = none → pending (ownerClasses owner ds) s₁ = ∅ := by
    intro hinst
    have hlen := hadv.registered.done (hnew hinst)
    exact pending_ownerClasses (hlen ▸ hadv.registered)
  obtain ⟨hdue, hstart₁⟩ := callsDue_getInstance (hcount m s₀ c (h.index d.factoryName) hc hfuel)
    (mem_ownerClasses.mpr ⟨d, hd, hown⟩) hstart hcall hdone d'
  have hregister : pending (ownerClasses owner ds) (enterElement s₁ c d) =
      pending (ownerClasses owner ds) s₁ := pending_congr _ (enterElement_isSome s₁ c d)
  have hdue' : callsDue owner ds d' s₁ = callsDue owner ds d' s := hdue
  constructor
  · rw [← hdue']
    unfold callsDue
    rw [count_initCalls_enterElement, hregister]
    omega
  · unfold Startable
    rw [hregister, enterElement_isInit]
    exact hstart₁

/-- The same at a descriptor without a factory, whose `init` fails. -/
theorem callsDue_initStep_of_none (h : Registered owner ds m s) {k : ℕ} {d : ElementDescriptor}
    (hk : k ≤ m) (hd : ds[k]? = some d) (hown : owner d.factoryName = none)
    (hfails : ¬ InitSucceeds d.init) (hstart : Startable owner ds s) {s' : Statics}
    (hrun : initStep g s d = .ok s') (d' : ElementDescriptor) :
    callsDue owner ds d' s' = callsDue owner ds d' s + (withInit [d]).count d' ∧
      Startable owner ds s' := by
  obtain ⟨s₁, hstep, rfl, -⟩ := initStep_of_none (g := g) h hk hd hown hfails
  obtain rfl := Except.ok.inj (hstep.symm.trans hrun)
  set s₀ : Statics := { s with factoryMap := (s.factoryMap.index d.factoryName).1 }
  have hpending : pending (ownerClasses owner ds) (s₀.callInit d) =
      pending (ownerClasses owner ds) s :=
    pending_congr _ fun c => by rw [callInit_instances]
  constructor
  · unfold callsDue
    rw [count_initCalls_callInit, hpending]
    exact Nat.add_right_comm ..
  · unfold Startable
    rw [hpending, callInit_isInit]
    exact hstart

/-- The rest of a pass makes the calls of the rest of the descriptors due.  Induction on the rest
of the list. -/
theorem callsDue_foldlM (hg : Serves owner ds classes fuel g)
    (hcount : ∀ m s c, Registered owner ds m s → c ∈ classes →
      (pending classes s).card < fuel → Counts owner ds g s c)
    (hown : Owned owner ds classes)
    (rest : List ElementDescriptor) {k : ℕ} (hrest : ds.drop k = rest)
    (h : Registered owner ds m s) (hk : k ≤ m) (hfuel : (pending classes s).card < fuel)
    (hstart : Startable owner ds s) {s' : Statics}
    (hrun : rest.foldlM (initStep g) s = .ok s') (d' : ElementDescriptor) :
    callsDue owner ds d' s' = callsDue owner ds d' s + (withInit rest).count d' := by
  induction rest generalizing k m s with
  | nil =>
    obtain rfl : s = s' := Except.ok.inj hrun
    rfl
  | cons d rest ih =>
    have hd : ds[k]? = some d := by
      rw [← List.head?_drop, hrest]
      rfl
    have hmem := List.mem_of_getElem? hd
    have hnext : ∃ m₁ s₁, initStep g s d = .ok s₁ ∧ Advances owner ds m s m₁ s₁ ∧ k < m₁ ∧
        callsDue owner ds d' s₁ = callsDue owner ds d' s + (withInit [d]).count d' ∧
          Startable owner ds s₁ := by
      rcases hown d hmem with ⟨c, hc, hdc⟩ | ⟨hnone, hfails⟩
      · obtain ⟨m₁, s₁, hstep, hadv, hlt⟩ := initStep_advances hg h hk hd hdc hc hfuel
        exact ⟨m₁, s₁, hstep, hadv, hlt,
          callsDue_initStep hg hcount h hmem hdc hc hfuel hstart hstep d'⟩
      · obtain ⟨s₁, hstep, -, hadv⟩ := initStep_of_none (g := g) h hk hd hnone hfails
        exact ⟨_, s₁, hstep, hadv, by omega,
          callsDue_initStep_of_none h hk hd hnone hfails hstart hstep d'⟩
    obtain ⟨m₁, s₁, hstep, hadv, hlt, hdue, hstart'⟩ := hnext
    have hrest' : ds.drop (k + 1) = rest := by
      rw [← List.tail_drop, hrest]
      rfl
    have hfuel' : (pending classes s₁).card < fuel :=
      (Finset.card_le_card (hadv.keeps.pending_subset classes)).trans_lt hfuel
    rw [List.foldlM_cons, hstep, Checked.ok_bind] at hrun
    have happend : withInit (d :: rest) = withInit [d] ++ withInit rest := by
      unfold withInit
      exact List.filter_append [d] rest
    rw [ih hrest' hadv.registered hlt hfuel' hstart' hrun, hdue, happend, List.count_append]
    omega

/-- What `getInstance` calls, whatever its fuel.  Induction on the fuel. -/
theorem getInstance_counts (hown : Owned owner ds classes)
    (fuel : ℕ) {m : ℕ} {s : Statics} {c : ℕ} (h : Registered owner ds m s) (hc : c ∈ classes)
    (hfuel : (pending classes s).card < fuel) : Counts owner ds (getInstance fuel) s c := by
  induction fuel generalizing m s c with
  | zero => omega
  | succ fuel ih =>
    refine ⟨fun hsome s' hrun => ?_, fun hnone hinit s' hrun => ?_,
      fun hnone hinit s' hrun d => ?_⟩ <;> unfold getInstance at hrun
    · obtain ⟨map, hmap⟩ := Option.isSome_iff_exists.mp hsome
      rw [hmap] at hrun
      exact (Except.ok.inj hrun).symm
    · rw [hnone] at hrun
      dsimp only at hrun
      unfold init at hrun
      rw [if_pos (show (create s c).isInit = true from hinit)] at hrun
      rw [← Except.ok.inj hrun]
      rfl
    · rw [hnone] at hrun
      dsimp only at hrun
      unfold init at hrun
      have hlt := card_pending_create_lt hc hnone
      rw [if_neg (show ¬ (create s c).isInit = true by
          rw [show (create s c).isInit = s.isInit from rfl, hinit]
          exact Bool.false_ne_true),
        (h.create hnone).list, Checked.bind_eq_ok] at hrun
      obtain ⟨s₁, hpass, hrun⟩ := hrun
      have hserves := getInstance_serves hown fuel
      have hdue := callsDue_foldlM hserves (fun m s c h hc hfuel => ih h hc hfuel) hown ds
        (k := 0) rfl (h.create hnone) (Nat.zero_le m) (by omega)
        (fun hdone => by
          rw [show (create s c).isInit = s.isInit from rfl, hinit] at hdone
          cases hdone) hpass d
      -- the pass is complete, so no call is due any more
      obtain ⟨s₂, hpass', hadv⟩ := foldlM_initStep_advances hserves hown ds (k := 0) rfl
        (h.create hnone) (Nat.zero_le m) (by omega)
      obtain rfl : s₁ = s₂ := Except.ok.inj (hpass.symm.trans hpass')
      rw [← hdue]
      unfold callsDue
      rw [pending_ownerClasses hadv.registered, Finset.card_empty, Nat.zero_mul, Nat.add_zero,
        ← Except.ok.inj hrun]

/-! ### The lookups of a program -/

/-- Once the registration is complete no lookup calls a callback. -/
theorem initCalls_lookups_of_isInit (hown : Owned owner ds classes)
    (hclasses : ∀ name c, owner name = some c → c ∈ classes) (h : Registered owner ds m s)
    (hsettled : Settled s) (hfuel : (pending classes s).card < fuel) (hinit : s.isInit = true)
    {names : List String} {s' : Statics} (hrun : lookups fuel s names = .ok s') :
    s'.initCalls = s.initCalls := by
  induction names generalizing m s with
  | nil =>
    obtain rfl : s = s' := Except.ok.inj hrun
    rfl
  | cons name names ih =>
    obtain ⟨m₁, s₁, hlookup, hadv, hsettled₁, -⟩ :=
      lookup_advances hown hclasses h hsettled hfuel name
    have hfuel₁ : (pending classes s₁).card < fuel :=
      (Finset.card_le_card (hadv.keeps.pending_subset classes)).trans_lt hfuel
    unfold lookups at hrun
    rw [List.foldlM_cons, hlookup] at hrun
    rw [ih hadv.registered hsettled₁ hfuel₁ (hadv.isInit hinit) hrun]
    cases hname : owner name with
    | none =>
      rw [getFactoryInstanceByName_of_none h hname] at hlookup
      rw [← (Prod.mk.inj (Except.ok.inj hlookup)).1]
    | some c =>
      have hcounts := getInstance_counts hown fuel (h.index name) (hclasses name c hname) hfuel
      have hcall := getInstance_of_lookup h hname hlookup
      cases hinst : s.instances c with
      | some map => rw [hcounts.present (by simp [hinst]) s₁ hcall]
      | none => rw [hcounts.complete hinst hinit s₁ hcall]

theorem passes_cons_of_none {name : String} (h : owner name = none) (names : List String) :
    passes owner ds (name :: names) = passes owner ds names := by
  unfold passes firstClass
  rw [List.findSome?_cons, h]

theorem passes_cons_of_some {name : String} {c : ℕ} (h : owner name = some c)
    (names : List String) :
    passes owner ds (name :: names) = ((ownerClasses owner ds).erase c).card + 1 := by
  unfold passes firstClass
  rw [List.findSome?_cons, h]

/-- The lookups of a program call each callback in each of their passes.  Induction on the list:
the first name of a registered factory does it all. -/
theorem count_initCalls_lookups (hown : Owned owner ds classes)
    (hclasses : ∀ name c, owner name = some c → c ∈ classes) (h : Registered owner ds m s)
    (hsettled : Settled s) (hfuel : (pending classes s).card < fuel) (hinit : s.isInit = false)
    {names : List String} {s' : Statics} (hrun : lookups fuel s names = .ok s')
    (d : ElementDescriptor) :
    s'.initCalls.count d =
      s.initCalls.count d + passes owner ds names * (withInit ds).count d := by
  induction names generalizing m s with
  | nil =>
    obtain rfl : s = s' := Except.ok.inj hrun
    simp [passes, firstClass]
  | cons name names ih =>
    obtain ⟨m₁, s₁, hlookup, hadv, hsettled₁, hinst₁⟩ :=
      lookup_advances hown hclasses h hsettled hfuel name
    have hfuel₁ : (pending classes s₁).card < fuel :=
      (Finset.card_le_card (hadv.keeps.pending_subset classes)).trans_lt hfuel
    unfold lookups at hrun
    rw [List.foldlM_cons, hlookup] at hrun
    cases hname : owner name with
    | none =>
      rw [getFactoryInstanceByName_of_none h hname] at hlookup
      obtain rfl := (Prod.mk.inj (Except.ok.inj hlookup)).1
      rw [ih hadv.registered hsettled₁ hfuel₁ hinit hrun, passes_cons_of_none hname]
    | some c =>
      -- before the registration no class has an instance
      have hnone : ∀ c', s.instances c' = none := by
        intro c'
        by_contra hsome
        rw [hsettled c' (Option.isSome_iff_ne_none.mpr hsome)] at hinit
        cases hinit
      set s₀ : Statics := { s with factoryMap := (s.factoryMap.index name).1 }
      have hpending : pending (ownerClasses owner ds) s₀ = ownerClasses owner ds := by
        apply Finset.filter_true_of_mem
        intro c' _
        rw [show s₀.instances c' = none from hnone c']
        rfl
      have hcounts := getInstance_counts hown fuel (h.index name) (hclasses name c hname) hfuel
      have hcalls := hcounts.starts (hnone c) hinit s₁ (getInstance_of_lookup h hname hlookup) d
      rw [initCalls_lookups_of_isInit hown hclasses hadv.registered hsettled₁ hfuel₁
        (hsettled₁ c (hinst₁ c hname)) hrun, hcalls, passes_cons_of_some hname, Nat.succ_mul,
        callsDue, pending_create, hpending, Nat.add_assoc]
      rfl

/-! ### The whole program -/

/-- No static initialiser calls the callback of an element. -/
theorem StaticInit.run_initCalls (s : Statics) (r : StaticInit) :
    (r.run s).initCalls = s.initCalls := by
  cases r with
  | registerFactory d =>
    show (Factory.registerFactory s d).1.initCalls = _
    unfold Factory.registerFactory
    split_ifs <;> rfl
  | registerElement ds =>
    show (addElementDescs s ds).initCalls = _
    rw [addElementDescs_eq]

theorem initCalls_afterStaticInit (regs : List StaticInit) :
    (afterStaticInit regs).initCalls = [] := by
  unfold afterStaticInit
  induction regs using List.reverseRecOn with
  | nil => rfl
  | append_singleton regs r ih =>
    rw [List.foldl_append, List.foldl_cons, List.foldl_nil, StaticInit.run_initCalls, ih]

/-- A callback runs again unless there is only one pass. -/
theorem initialisedOnce_iff_passes {n : ℕ}
    (h : ∀ d, s.initCalls.count d = n * (withInit ds).count d) :
    s.InitialisedOnce ds ↔ (∀ d ∈ ds, d.init = none) ∨ n = 1 := by
  unfold Statics.InitialisedOnce
  rw [List.perm_iff_count]
  constructor
  · intro hcount
    by_contra hboth
    rw [not_or] at hboth
    obtain ⟨hsome, hn⟩ := hboth
    push Not at hsome
    obtain ⟨d, hd, hinit⟩ := hsome
    -- the callback of `d` was called once for each time `d` is in the list
    have hmem : d ∈ withInit ds :=
      List.mem_filter.mpr ⟨hd, Option.isSome_iff_ne_none.mpr hinit⟩
    have hpos : 0 < (withInit ds).count d := List.count_pos_iff.mpr hmem
    have hmul : n * (withInit ds).count d = 1 * (withInit ds).count d := by
      rw [← h, hcount, Nat.one_mul]
    exact hn (Nat.eq_of_mul_eq_mul_right hpos hmul)
  · rintro (hnone | rfl) d
    · have hnil : withInit ds = [] := by
        apply List.filter_eq_nil_iff.mpr
        intro d' hd'
        simp [hnone d' hd']
      rw [h, hnil, List.count_nil, Nat.mul_zero]
    · rw [h, Nat.one_mul]

/-- There is one pass if the first factory that is looked up owns all descriptors. -/
theorem passes_eq_one_iff {names : List String} (hown : ∀ d ∈ ds, (owner d.factoryName).isSome) :
    passes owner ds names = 1 ↔
      ∃ c, firstClass owner names = some c ∧ ∀ d ∈ ds, owner d.factoryName = some c := by
  unfold passes
  cases firstClass owner names with
  | none => simp
  | some c =>
    have hsubset : ((ownerClasses owner ds).erase c).card + 1 = 1 ↔
        ∀ d ∈ ds, owner d.factoryName = some c := by
      rw [Nat.add_eq_right, Finset.card_eq_zero, Finset.eq_empty_iff_forall_notMem]
      constructor
      · intro hempty d hd
        obtain ⟨c', hc'⟩ := Option.isSome_iff_exists.mp (hown d hd)
        by_contra hne
        apply hempty c'
        rw [Finset.mem_erase, mem_ownerClasses]
        refine ⟨fun heq => hne (heq ▸ hc'), d, hd, hc'⟩
      · intro hall c' hc'
        rw [Finset.mem_erase, mem_ownerClasses] at hc'
        obtain ⟨hne, d, hd, hdc⟩ := hc'
        exact hne (Option.some_inj.mp (hdc.symm.trans (hall d hd)))
    dsimp only
    rw [hsubset]
    simp

/-- After the static initialisers, if every element descriptor names a registered factory, the
lookups of a program call each `init` callback once exactly when there is none, or when all
descriptors belong to the factory that is looked up first. -/
theorem lookups_initialisedOnce_iff (regs : List StaticInit)
    (hreg : ∀ d ∈ elementDescs regs, (classOf regs d.factoryName).isSome) (fuel : ℕ)
    (hfuel : (factoryDescs regs).length < fuel) (names : List String) :
    ∃ s, lookups fuel (afterStaticInit regs) names = .ok s ∧
      (s.InitialisedOnce (elementDescs regs) ↔
        (∀ d ∈ elementDescs regs, d.init = none) ∨
        ∃ c, firstClass (classOf regs) names = some c ∧
          ∀ d ∈ elementDescs regs, classOf regs d.factoryName = some c) := by
  have hown := owner_mem_factoryClasses hreg
  have hpending := card_pending_afterStaticInit_lt hfuel
  obtain ⟨m, s, hrun, -⟩ := lookups_advances hown (fun _ _ => mem_factoryClasses_of_classOf)
    (registered_afterStaticInit regs) (settled_afterStaticInit regs) hpending names
  refine ⟨s, hrun, ?_⟩
  rw [← passes_eq_one_iff hreg]
  apply initialisedOnce_iff_passes
  intro d
  rw [count_initCalls_lookups hown (fun _ _ => mem_factoryClasses_of_classOf)
    (registered_afterStaticInit regs) (settled_afterStaticInit regs) hpending
    (afterStaticInit_eq regs).2.2.1 hrun, initCalls_afterStaticInit, List.count_nil, Nat.zero_add]

/-- One factory that owns all descriptors. -/
def oneFactory : List StaticInit :=
  [.registerElement [⟨"common", "rtsp-server", some 0, 0⟩],
    .registerFactory ⟨"common", some 0, 0⟩,
    .registerElement [⟨"common", "websocket-server", some 0, 1⟩]]

theorem lookups_initialisedOnce_oneFactory :
    ∃ s, lookups 2 (afterStaticInit oneFactory) ["common"] = .ok s ∧
      s.InitialisedOnce (elementDescs oneFactory) := by
  obtain ⟨s, hrun, hiff⟩ :=
    lookups_initialisedOnce_iff oneFactory (by decide) 2 (by decide) ["common"]
  exact ⟨s, hrun, hiff.mpr (Or.inr ⟨0, by decide, by decide⟩)⟩

/-- With a second factory the callbacks run twice. -/
theorem not_initialisedOnce_twoFactories :
    ∃ s, lookups 3 (afterStaticInit twoFactories) ["SSC339G"] = .ok s ∧
      s.initCalls.count ⟨"SSC339G", "vif", some 0, 0⟩ = 2 ∧
      ¬ s.InitialisedOnce (elementDescs twoFactories) := by
  refine ⟨_, rfl, ?_, ?_⟩
  · decide
  · intro honce
    have hcount := honce.count_eq ⟨"SSC339G", "vif", some 0, 0⟩
    revert hcount
    decide

end Mvr.Factory
