import Mvr.Factory.Equiv
import Mathlib.Data.List.Find
import Mathlib.Data.List.Perm.Basic

/-!
# Descriptors without a factory

A descriptor whose factory is not registered, or whose factory failed to register, is found only
when a pass comes to it.  Its `init` is called nevertheless, and where it succeeds the pass stops at
a null pointer.  Every pass comes to such an orphan, nested or not, since no other pass can come to
its end before: `getInstance_of_orphan`.  So the first lookup of any factory stops exactly if there
is one (`lookups_isOk_iff`).

Where no two registrations stand for the same name, the order in which the static initialisers run
makes no difference to what the names mean (`classOf_perm`, `firstDesc_perm`).
-/

namespace Mvr.Factory

variable {owner : String → Option ℕ} {ds : List ElementDescriptor} {s : Statics}

/-- The descriptor has no factory to go to, and its `init` succeeds. -/
def IsOrphan (owner : String → Option ℕ) (d : ElementDescriptor) : Prop :=
  owner d.factoryName = none ∧ InitSucceeds d.init

/-- The registration is not complete. -/
structure Unfinished (owner : String → Option ℕ) (ds : List ElementDescriptor) (s : Statics) :
    Prop where
  list : s.elemDescList = ds
  names : ∀ name, (s.factoryMap.pointer name).map FactoryDescriptor.getFactoryInstance = owner name
  isInit : s.isInit = false

namespace Unfinished

theorem index (h : Unfinished owner ds s) (name : String) :
    Unfinished owner ds { s with factoryMap := (s.factoryMap.index name).1 } where
  list := h.list
  names := fun name' => by
    rw [PtrMap.pointer_index]
    exact h.names name'
  isInit := h.isInit

theorem create (h : Unfinished owner ds s) (c : ℕ) : Unfinished owner ds (create s c) :=
  ⟨h.list, h.names, h.isInit⟩

theorem enterElement (h : Unfinished owner ds s) (c : ℕ) (d : ElementDescriptor) :
    Unfinished owner ds (enterElement s c d) where
  list := by
    rw [enterElement_elemDescList]
    exact h.list
  names := by
    rw [enterElement_factoryMap]
    exact h.names
  isInit := by
    rw [enterElement_isInit]
    exact h.isInit

theorem callInit (h : Unfinished owner ds s) (d : ElementDescriptor) :
    Unfinished owner ds (s.callInit d) where
  list := by
    rw [callInit_elemDescList]
    exact h.list
  names := by
    rw [callInit_factoryMap]
    exact h.names
  isInit := by
    rw [callInit_isInit]
    exact h.isInit

/-- A name under which no factory is registered gives a null pointer. -/
theorem lookup_of_none (h : Unfinished owner ds s) {name : String} (hname : owner name = none)
    (g : Statics → ℕ → Checked Statics) : getFactoryInstanceByName g s name =
      .ok ({ s with factoryMap := (s.factoryMap.index name).1 }, none) := by
  have hptr : s.factoryMap.pointer name = none := by
    have hnames := h.names name
    rwa [hname, Option.map_eq_none_iff] at hnames
  unfold getFactoryInstanceByName
  rw [PtrMap.index_snd, hptr]

/-- A name under which a factory is registered calls the `getInstance` of its class. -/
theorem lookup_of_some (h : Unfinished owner ds s) {name : String} {c : ℕ}
    (hname : owner name = some c) (g : Statics → ℕ → Checked Statics) :
    getFactoryInstanceByName g s name =
      g { s with factoryMap := (s.factoryMap.index name).1 } c >>= fun s' => .ok (s', some c) := by
  have hnames := h.names name
  rw [hname, Option.map_eq_some_iff] at hnames
  obtain ⟨f, hptr, rfl⟩ := hnames
  unfold getFactoryInstanceByName
  rw [PtrMap.index_snd, hptr]

end Unfinished

theorem pending_eq {s' : Statics} (classes : Finset ℕ)
    (h : ∀ c, (s'.instances c).isSome = (s.instances c).isSome) :
    pending classes s' = pending classes s := by
  unfold pending
  refine Finset.filter_congr fun c _ => ?_
  rw [← Option.not_isSome, ← Option.not_isSome, h]

/-! ### A pass over an orphan -/

variable {classes : Finset ℕ}

/-- `getInstance` stops at a null pointer wherever it has to create an instance. -/
def Stops (owner : String → Option ℕ) (ds : List ElementDescriptor) (classes : Finset ℕ) (fuel : ℕ)
    (getInstance : Statics → ℕ → Checked Statics) : Prop :=
  ∀ s c, Unfinished owner ds s → c ∈ classes → s.instances c = none →
    (pending classes s).card < fuel → getInstance s c = .error .badPointer

/-- A pass stops at the orphan, if no nested one has stopped before.  Induction on the rest of the
list. -/
theorem foldlM_initStep_of_orphan {fuel : ℕ}
    (hstops : Stops owner ds classes fuel (getInstance fuel))
    (hclasses : ∀ name c, owner name = some c → c ∈ classes) {rest : List ElementDescriptor}
    (horphan : ∃ d ∈ rest, IsOrphan owner d) (h : Unfinished owner ds s)
    (hfuel : (pending classes s).card < fuel) :
    rest.foldlM (initStep (getInstance fuel)) s = .error .badPointer := by
  induction rest generalizing s with
  | nil =>
    obtain ⟨d, hd, -⟩ := horphan
    cases hd
  | cons d rest ih =>
    have hindex := h.index d.factoryName
    have hrest : ¬ IsOrphan owner d → ∃ d ∈ rest, IsOrphan owner d := by
      intro hnot
      obtain ⟨d', hd', horphan⟩ := horphan
      rcases List.mem_cons.mp hd' with rfl | hmem
      · exact absurd horphan hnot
      · exact ⟨d', hmem, horphan⟩
    rw [List.foldlM_cons]
    cases hown : owner d.factoryName with
    | none =>
      have hstep : initStep (getInstance fuel) s d = registerElement
          { s with factoryMap := (s.factoryMap.index d.factoryName).1 } none d := by
        unfold initStep
        rw [h.lookup_of_none hown, Checked.ok_bind]
      rw [hstep, registerElement_of_none]
      by_cases hok : InitSucceeds d.init
      · rw [if_pos hok]
        rfl
      · -- the pass goes on
        rw [if_neg hok, Checked.ok_bind]
        refine ih (hrest fun horphan => hok horphan.2) (hindex.callInit d) ?_
        rwa [pending_eq (s := s) classes fun c => by rw [callInit_instances]]
    | some c =>
      have hnot : ¬ IsOrphan owner d := by
        rintro ⟨hnone, -⟩
        rw [hown] at hnone
        cases hnone
      cases hinst : s.instances c with
      | none =>
        -- the nested pass comes to the orphan
        unfold initStep
        rw [h.lookup_of_some hown, hstops _ c hindex (hclasses _ c hown) hinst hfuel]
        rfl
      | some map =>
        obtain ⟨fuel, rfl⟩ : ∃ n, fuel = n + 1 := ⟨fuel - 1, by omega⟩
        have hget : getInstance (fuel + 1)
            { s with factoryMap := (s.factoryMap.index d.factoryName).1 } c =
              .ok { s with factoryMap := (s.factoryMap.index d.factoryName).1 } := by
          unfold getInstance
          rw [show ({ s with factoryMap := (s.factoryMap.index d.factoryName).1 } :
            Statics).instances c = some map from hinst]
        have hstep : initStep (getInstance (fuel + 1)) s d = .ok (enterElement
            { s with factoryMap := (s.factoryMap.index d.factoryName).1 } c d) := by
          unfold initStep
          rw [h.lookup_of_some hown, hget, Checked.ok_bind, Checked.ok_bind]
          exact registerElement_of_some _ c d
        rw [hstep, Checked.ok_bind]
        refine ih (hrest hnot) (hindex.enterElement c d) ?_
        have hpending := pending_eq (s := { s with
          factoryMap := (s.factoryMap.index d.factoryName).1 }) classes
            fun c' => enterElement_isSome _ c d c'
        rw [hpending]
        exact hfuel

/-- The first call of `getInstance` that creates an instance stops. -/
theorem getInstance_of_orphan (hclasses : ∀ name c, owner name = some c → c ∈ classes)
    (horphan : ∃ d ∈ ds, IsOrphan owner d) (fuel : ℕ) :
    Stops owner ds classes fuel (getInstance fuel) := by
  induction fuel with
  | zero =>
    intro s c _ _ _ hfuel
    omega
  | succ fuel ih =>
    intro s c h hc hinst hfuel
    have hlt := card_pending_create_lt hc hinst
    have hcreate := h.create c
    unfold getInstance
    rw [hinst]
    dsimp only
    unfold init
    rw [if_neg (by rw [hcreate.isInit]; exact Bool.false_ne_true), hcreate.list,
      foldlM_initStep_of_orphan ih hclasses horphan hcreate (by omega)]
    rfl

/-! ### The first lookup -/

theorem unfinished_afterStaticInit (regs : List StaticInit) :
    Unfinished (classOf regs) (elementDescs regs) (afterStaticInit regs) :=
  ⟨(afterStaticInit_eq regs).2.1, (registered_afterStaticInit regs).names,
    (afterStaticInit_eq regs).2.2.1⟩

/-- Names without a factory are looked up in vain, and the first one with a factory stops. -/
theorem lookups_of_orphan {fuel : ℕ} (hclasses : ∀ name c, owner name = some c → c ∈ classes)
    (horphan : ∃ d ∈ ds, IsOrphan owner d) (h : Unfinished owner ds s)
    (hinst : ∀ c, s.instances c = none) (hfuel : (pending classes s).card < fuel)
    {names : List String} (hnames : ∃ name ∈ names, (owner name).isSome) :
    lookups fuel s names = .error .badPointer := by
  unfold lookups
  induction names generalizing s with
  | nil =>
    obtain ⟨name, hname, -⟩ := hnames
    cases hname
  | cons name names ih =>
    rw [List.foldlM_cons]
    cases hown : owner name with
    | none =>
      rw [h.lookup_of_none hown, Checked.ok_bind]
      refine ih (h.index name) hinst hfuel ?_
      obtain ⟨name', hname', hsome⟩ := hnames
      rcases List.mem_cons.mp hname' with rfl | hrest
      · rw [hown] at hsome
        cases hsome
      · exact ⟨name', hrest, hsome⟩
    | some c =>
      rw [h.lookup_of_some hown, getInstance_of_orphan hclasses horphan fuel _ c (h.index name)
        (hclasses name c hown) (hinst c) hfuel]
      rfl

/-- Without an orphan every descriptor has a class to go to, or is passed over. -/
theorem owned_of_not_orphan {regs : List StaticInit}
    (hnot : ∀ d ∈ elementDescs regs, ¬ IsOrphan (classOf regs) d) :
    Owned (classOf regs) (elementDescs regs) (factoryClasses regs) := by
  intro d hd
  cases hown : classOf regs d.factoryName with
  | some c => exact Or.inl ⟨c, mem_factoryClasses_of_classOf hown, rfl⟩
  | none => exact Or.inr ⟨rfl, fun hok => hnot d hd ⟨hown, hok⟩⟩

/-- **When the lookups of a program return**: once one of the names is that of a registered factory,
exactly if every element descriptor of the program whose `init` succeeds names a registered factory,
whichever factories are looked up.  Otherwise they stop at a null pointer. -/
theorem lookups_isOk_iff (regs : List StaticInit) {fuel : ℕ}
    (hfuel : (factoryDescs regs).length < fuel) {names : List String}
    (hnames : ∃ name ∈ names, (classOf regs name).isSome) :
    ((lookups fuel (afterStaticInit regs) names).IsOk ↔
      ∀ d ∈ elementDescs regs, InitSucceeds d.init → (classOf regs d.factoryName).isSome) ∧
    (¬ (lookups fuel (afterStaticInit regs) names).IsOk →
      lookups fuel (afterStaticInit regs) names = .error .badPointer) := by
  have hpending := card_pending_afterStaticInit_lt hfuel
  have hstops : (∃ d ∈ elementDescs regs, IsOrphan (classOf regs) d) →
      lookups fuel (afterStaticInit regs) names = .error .badPointer := fun horphan =>
    lookups_of_orphan (fun _ _ => mem_factoryClasses_of_classOf) horphan
      (unfinished_afterStaticInit regs) (fun c => by rw [(afterStaticInit_eq regs).2.2.2]) hpending
      hnames
  have hreturns : (∀ d ∈ elementDescs regs, ¬ IsOrphan (classOf regs) d) →
      (lookups fuel (afterStaticInit regs) names).IsOk := by
    intro hnot
    obtain ⟨-, s, hrun, -⟩ := lookups_advances (owned_of_not_orphan hnot)
      (fun _ _ => mem_factoryClasses_of_classOf) (registered_afterStaticInit regs)
      (settled_afterStaticInit regs) hpending names
    exact ⟨s, hrun⟩
  have hiff : (∀ d ∈ elementDescs regs, InitSucceeds d.init →
      (classOf regs d.factoryName).isSome) ↔
        ∀ d ∈ elementDescs regs, ¬ IsOrphan (classOf regs) d := by
    refine forall₂_congr fun d _ => ?_
    unfold IsOrphan
    rw [not_and', ← Option.not_isSome_iff_eq_none, not_not]
  rw [hiff]
  constructor
  · refine ⟨fun hok => ?_, hreturns⟩
    rintro d hd horphan
    rw [hstops ⟨d, hd, horphan⟩] at hok
    exact Checked.not_isOk_error _ hok
  · intro hnot
    by_contra hne
    refine hnot (hreturns fun d hd horphan => hne (hstops ⟨d, hd, horphan⟩))

/-- A `vif` whose factory did not register stops the lookup of another factory. -/
theorem lookups_isOk_iff_failedFactory :
    ¬ (lookups 3 (afterStaticInit [.registerFactory ⟨"SSC339G", some (-1), 0⟩,
      .registerElement [⟨"SSC339G", "vif", some 0, 0⟩], .registerFactory ⟨"common", some 0, 1⟩])
      ["common"]).IsOk := by
  rw [(lookups_isOk_iff _ (by decide) ⟨"common", by decide, by decide⟩).1]
  decide

/-! ### The order of the static initialisers -/

variable {regs regs' : List StaticInit}

theorem classOf_perm (h : regs.Perm regs') (huniq : ∀ f ∈ factoryDescs regs,
    ∀ f' ∈ factoryDescs regs, f.factoryName = f'.factoryName → f = f') :
    classOf regs = classOf regs' := by
  funext name
  unfold classOf factoryOf
  congr 1
  refine List.find?_eq_find?_of_perm (h.filterMap _) ?_
  rintro f ⟨hf, hname⟩ f' ⟨hf', hname'⟩
  exact huniq f hf f' hf' ((of_decide_eq_true hname).1.trans (of_decide_eq_true hname').1.symm)

theorem firstDesc_perm {ds' : List ElementDescriptor} (h : ds.Perm ds')
    (huniq : ∀ d ∈ ds, ∀ d' ∈ ds, d.elementClassName = d'.elementClassName →
      owner d.factoryName = owner d'.factoryName → d = d') (c : ℕ) (key : String) :
    firstDesc owner ds c key = firstDesc owner ds' c key := by
  unfold firstDesc
  refine List.find?_eq_find?_of_perm h ?_
  rintro d ⟨hd, hdef⟩ d' ⟨hd', hdef'⟩
  obtain ⟨howner, hkey, -⟩ := of_decide_eq_true hdef
  obtain ⟨howner', hkey', -⟩ := of_decide_eq_true hdef'
  exact huniq d hd d' hd' (hkey.trans hkey'.symm) (howner.trans howner'.symm)

/-- A descriptor whose class name is its own is the first one of it. -/
theorem firstDesc_of_mem (hnodup : (ds.map ElementDescriptor.elementClassName).Nodup)
    {d : ElementDescriptor} (hd : d ∈ ds) {c : ℕ} (hdef : Defines owner c d.elementClassName d) :
    firstDesc owner ds c d.elementClassName = some d := by
  unfold firstDesc
  cases hfirst : ds.find? fun d' => Defines owner c d.elementClassName d' with
  | none => exact absurd (decide_eq_true hdef) (List.find?_eq_none.mp hfirst d hd)
  | some d' =>
    have hdef' : Defines owner c d.elementClassName d' := by simpa using List.find?_some hfirst
    rw [List.inj_on_of_nodup_map hnodup (List.mem_of_find?_eq_some hfirst) hd hdef'.2.1]

theorem elementDescs_perm (h : regs.Perm regs') : (elementDescs regs).Perm (elementDescs regs') :=
  h.flatMap_right _

/-- `createElementByName` of a name that is there changes nothing. -/
theorem createElementByName_of_elemDesc {c : ℕ} {key : String} {d : ElementDescriptor}
    (h : s.elemDesc c key = some d) :
    createElementByName s c key = .ok (s, some d.createElementInstance) := by
  unfold Statics.elemDesc at h
  obtain ⟨map, hmap, hptr⟩ := Option.bind_eq_some_iff.mp h
  have hkey : map key = some (some d) := by
    unfold PtrMap.pointer at hptr
    exact Option.join_eq_some_iff.mp hptr
  unfold createElementByName
  rw [hmap]
  dsimp only
  rw [PtrMap.index_of_some hkey, ← hmap, Function.update_eq_self]
  rfl

end Mvr.Factory
