import Mvr.Factory.Basic
import Mathlib.Data.Finset.Card

/-!
# Element registration

The passes that nested calls of `init` make over the element descriptors never undo each other:
`Registered owner ds m s` says that the first `m` descriptors of the program are registered in `s`
and no others, and it survives every call with an `m` that only grows.  A pass that stands at a
descriptor before the `m`-th repeats a registration that has no effect, since the first insertion
under a class name stays.  Each nested call of `getInstance` that goes on to `init` has created an
instance, so the calls nest no deeper than there are factories.
-/

namespace Mvr.Factory

/-! ### The static initialisers -/

theorem factoryDescs_append (regs regs' : List StaticInit) :
    factoryDescs (regs ++ regs') = factoryDescs regs ++ factoryDescs regs' :=
  List.filterMap_append

theorem elementDescs_append (regs regs' : List StaticInit) :
    elementDescs (regs ++ regs') = elementDescs regs ++ elementDescs regs' :=
  List.flatMap_append

theorem addElementDescs_eq (ds : List ElementDescriptor) (s : Statics) :
    addElementDescs s ds = { s with elemDescList := s.elemDescList ++ ds } := by
  unfold addElementDescs
  induction ds generalizing s with
  | nil => simp
  | cons d ds ih =>
    rw [List.foldl_cons, ih]
    simp [addElementDesc]

/-- A registration that succeeds enters the descriptor under its name, unless one is there. -/
theorem registerFactory_factoryMap (s : Statics) (d : FactoryDescriptor) (name : String) :
    (registerFactory s d).1.factoryMap name =
      (s.factoryMap name).or
        (if d.factoryName = name ∧ InitSucceeds d.init then some (some d) else none) := by
  unfold registerFactory
  by_cases hinit : InitSucceeds d.init
  · rw [if_pos hinit]
    rcases eq_or_ne d.factoryName name with rfl | hname
    · rw [if_pos ⟨rfl, hinit⟩]
      exact PtrMap.insert_self _ _ _
    · rw [if_neg fun h => hname h.1, Option.or_none]
      exact PtrMap.insert_of_ne _ (Ne.symm hname) _
  · rw [if_neg hinit, if_neg fun h => hinit h.2, Option.or_none]

/-- The static initialisers leave the first successful registration of every factory name, all
element descriptors in order, and no instance. -/
theorem afterStaticInit_eq (regs : List StaticInit) :
    (∀ name, (afterStaticInit regs).factoryMap name = (factoryOf regs name).map some) ∧
      (afterStaticInit regs).elemDescList = elementDescs regs ∧
      (afterStaticInit regs).isInit = false ∧ (afterStaticInit regs).instances = fun _ => none := by
  induction regs using List.reverseRecOn with
  | nil => exact ⟨fun _ => rfl, rfl, rfl, rfl⟩
  | append_singleton regs r ih =>
    obtain ⟨hmap, hlist, hinit, hinst⟩ := ih
    have hrun : afterStaticInit (regs ++ [r]) = r.run (afterStaticInit regs) := by
      unfold afterStaticInit
      rw [List.foldl_append, List.foldl_cons, List.foldl_nil]
    rw [hrun, elementDescs_append]
    unfold factoryOf at hmap ⊢
    rw [factoryDescs_append]
    cases r with
    | registerFactory d =>
      refine ⟨fun name => ?_, ?_, ?_, ?_⟩
      · change (Factory.registerFactory (afterStaticInit regs) d).1.factoryMap name = _
        rw [registerFactory_factoryMap, hmap, List.find?_append, Option.map_or]
        congr 1
        by_cases h : d.factoryName = name ∧ InitSucceeds d.init
        · simp [factoryDescs, h]
        · simp [factoryDescs, h]
      all_goals
        simp only [StaticInit.run, Factory.registerFactory]
        split_ifs <;> simp [elementDescs, hlist, hinit, hinst]
    | registerElement ds =>
      simp only [StaticInit.run, addElementDescs_eq]
      refine ⟨fun name => ?_, ?_, hinit, hinst⟩
      · rw [hmap]
        simp [factoryDescs]
      · rw [hlist]
        simp [elementDescs]

/-! ### How far the registration has come -/

/-- The first `m` of the element descriptors `ds` are registered, and no others; `owner` is the
factory class of a factory name. -/
structure Registered (owner : String → Option ℕ) (ds : List ElementDescriptor) (m : ℕ)
    (s : Statics) : Prop where
  le_length : m ≤ ds.length
  list : s.elemDescList = ds
  names : ∀ name, (s.factoryMap.pointer name).map FactoryDescriptor.getFactoryInstance = owner name
  owners : ∀ d ∈ ds.take m, ∀ c, owner d.factoryName = some c → (s.instances c).isSome
  held : ∀ c map, s.instances c = some map →
    ∀ key, map key = (firstDesc owner (ds.take m) c key).map some
  done : s.isInit = true → m = ds.length

/-- Every instance of `s` is still there in `s'`. -/
def Keeps (s s' : Statics) : Prop := ∀ c, (s.instances c).isSome → (s'.instances c).isSome

theorem Keeps.refl (s : Statics) : Keeps s s := fun _ h => h

theorem Keeps.trans {s s' s'' : Statics} (h : Keeps s s') (h' : Keeps s' s'') : Keeps s s'' :=
  fun c hc => h' c (h c hc)

/-- The factory classes of `classes` without an instance. -/
def pending (classes : Finset ℕ) (s : Statics) : Finset ℕ :=
  classes.filter fun c => (s.instances c).isNone

theorem Keeps.pending_subset {s s' : Statics} (h : Keeps s s') (classes : Finset ℕ) :
    pending classes s' ⊆ pending classes s := by
  intro c hc
  unfold pending at hc ⊢
  rw [Finset.mem_filter] at hc ⊢
  refine ⟨hc.1, ?_⟩
  by_contra hsome
  have hkept := h c (by simpa [Option.isSome_iff_ne_none] using hsome)
  rw [Option.isNone_iff_eq_none.mp hc.2] at hkept
  cases hkept

variable {owner : String → Option ℕ} {ds : List ElementDescriptor} {m : ℕ} {s : Statics}

/-- Reading a factory name leaves the registration as it is. -/
theorem Registered.index (h : Registered owner ds m s) (name : String) :
    Registered owner ds m { s with factoryMap := (s.factoryMap.index name).1 } where
  le_length := h.le_length
  list := h.list
  names := fun name' => by
    rw [PtrMap.pointer_index]
    exact h.names name'
  owners := h.owners
  held := h.held
  done := h.done

@[simp] theorem create_instances_self (s : Statics) (c : ℕ) :
    (create s c).instances c = some PtrMap.empty := Function.update_self ..

theorem create_instances_of_ne (s : Statics) {c c' : ℕ} (h : c' ≠ c) :
    (create s c).instances c' = s.instances c' := Function.update_of_ne h ..

theorem keeps_create (s : Statics) (c : ℕ) : Keeps s (create s c) := by
  intro c' hc'
  rcases eq_or_ne c' c with rfl | hcc
  · rw [create_instances_self]
    rfl
  · rwa [create_instances_of_ne s hcc]

/-- A new instance is as it should be if none of the registered descriptors belongs to it. -/
theorem Registered.create (h : Registered owner ds m s) {c : ℕ} (hc : s.instances c = none) :
    Registered owner ds m (create s c) where
  le_length := h.le_length
  list := h.list
  names := h.names
  owners := fun d hd c' hown => keeps_create s c c' (h.owners d hd c' hown)
  held := fun c' map hmap key => by
    rcases eq_or_ne c' c with rfl | hcc
    · -- a descriptor of `c'` among the first `m` would have an instance to go to
      have hnone : firstDesc owner (ds.take m) c' key = none := by
        unfold firstDesc
        rw [List.find?_eq_none]
        intro d hd hdef
        have howner := h.owners d hd c' (of_decide_eq_true hdef).1
        rw [hc] at howner
        cases howner
      rw [create_instances_self, Option.some_inj] at hmap
      rw [← hmap, hnone]
      rfl
    · rw [create_instances_of_ne s hcc] at hmap
      exact h.held c' map hmap key
  done := h.done

/-! ### One registration -/

@[simp] theorem callInit_factoryMap (s : Statics) (d : ElementDescriptor) :
    (s.callInit d).factoryMap = s.factoryMap := by
  unfold Statics.callInit
  split_ifs <;> rfl

@[simp] theorem callInit_elemDescList (s : Statics) (d : ElementDescriptor) :
    (s.callInit d).elemDescList = s.elemDescList := by
  unfold Statics.callInit
  split_ifs <;> rfl

@[simp] theorem callInit_isInit (s : Statics) (d : ElementDescriptor) :
    (s.callInit d).isInit = s.isInit := by
  unfold Statics.callInit
  split_ifs <;> rfl

@[simp] theorem callInit_instances (s : Statics) (d : ElementDescriptor) :
    (s.callInit d).instances = s.instances := by
  unfold Statics.callInit
  split_ifs <;> rfl

/-- What `registerElement` does on an instance. -/
def enterElement (s : Statics) (c : ℕ) (d : ElementDescriptor) : Statics :=
  let s := s.callInit d
  if InitSucceeds d.init then
    { s with
      instances := Function.update s.instances c
        ((s.instances c).map fun m => m.insert d.elementClassName d) }
  else s

theorem registerElement_of_some (s : Statics) (c : ℕ) (d : ElementDescriptor) :
    registerElement s (some c) d = .ok (enterElement s c d) := by
  unfold registerElement enterElement
  split_ifs <;> rfl

/-- On a null pointer the callback is called, and decides. -/
theorem registerElement_of_none (s : Statics) (d : ElementDescriptor) :
    registerElement s none d =
      if InitSucceeds d.init then .error .badPointer else .ok (s.callInit d) := rfl

@[simp] theorem enterElement_factoryMap (s : Statics) (c : ℕ) (d : ElementDescriptor) :
    (enterElement s c d).factoryMap = s.factoryMap := by
  unfold enterElement
  split_ifs <;> exact callInit_factoryMap s d

@[simp] theorem enterElement_elemDescList (s : Statics) (c : ℕ) (d : ElementDescriptor) :
    (enterElement s c d).elemDescList = s.elemDescList := by
  unfold enterElement
  split_ifs <;> exact callInit_elemDescList s d

@[simp] theorem enterElement_isInit (s : Statics) (c : ℕ) (d : ElementDescriptor) :
    (enterElement s c d).isInit = s.isInit := by
  unfold enterElement
  split_ifs <;> exact callInit_isInit s d

theorem enterElement_instances (s : Statics) (c : ℕ) (d : ElementDescriptor) :
    (enterElement s c d).instances =
      if InitSucceeds d.init then
        Function.update s.instances c
          ((s.instances c).map fun m => m.insert d.elementClassName d)
      else s.instances := by
  unfold enterElement
  split_ifs <;> simp

/-- Registration creates no instance and drops none. -/
@[simp] theorem enterElement_isSome (s : Statics) (c : ℕ) (d : ElementDescriptor) (c' : ℕ) :
    ((enterElement s c d).instances c').isSome = (s.instances c').isSome := by
  rw [enterElement_instances]
  split_ifs
  · rcases eq_or_ne c' c with rfl | hcc
    · simp
    · simp [hcc]
  · rfl

/-- What an instance holds after a registration: what it held, and the new descriptor where
nothing was. -/
theorem enterElement_held {s : Statics} {c c' : ℕ} {d : ElementDescriptor}
    {map' : PtrMap ElementDescriptor} (h : (enterElement s c d).instances c' = some map') :
    ∃ map, s.instances c' = some map ∧ ∀ key, map' key = (map key).or
      (if c' = c ∧ d.elementClassName = key ∧ InitSucceeds d.init then some (some d)
        else none) := by
  rw [enterElement_instances] at h
  by_cases hinit : InitSucceeds d.init
  · rw [if_pos hinit] at h
    rcases eq_or_ne c' c with rfl | hcc
    · rw [Function.update_self, Option.map_eq_some_iff] at h
      obtain ⟨map, hmap, rfl⟩ := h
      refine ⟨map, hmap, fun key => ?_⟩
      rcases eq_or_ne d.elementClassName key with rfl | hkey
      · rw [if_pos ⟨rfl, rfl, hinit⟩]
        exact PtrMap.insert_self _ _ _
      · rw [if_neg fun h => hkey h.2.1, Option.or_none]
        exact PtrMap.insert_of_ne _ (Ne.symm hkey) _
    · rw [Function.update_of_ne hcc] at h
      refine ⟨map', h, fun key => ?_⟩
      rw [if_neg fun h => hcc h.1, Option.or_none]
  · rw [if_neg hinit] at h
    refine ⟨map', h, fun key => ?_⟩
    rw [if_neg fun h => hinit h.2.2, Option.or_none]

/-- The first descriptor among those before the `m`-th and the `k`-th, which is not later than the
first that is not registered. -/
theorem firstDesc_take_max {k : ℕ} {d : ElementDescriptor} (hk : k ≤ m) (hd : ds[k]? = some d)
    (c : ℕ) (key : String) :
    firstDesc owner (ds.take (max m (k + 1))) c key =
      (firstDesc owner (ds.take m) c key).or
        (if Defines owner c key d then some d else none) := by
  unfold firstDesc
  rcases Nat.lt_or_eq_of_le hk with hlt | rfl
  · -- `d` is one of the first `m`, so it defines nothing new
    rw [max_eq_left hlt]
    by_cases hdef : Defines owner c key d
    · have hmem : d ∈ ds.take m := by
        rw [List.mem_iff_getElem?]
        refine ⟨k, ?_⟩
        rw [List.getElem?_take_of_lt hlt, hd]
      have hsome : ((ds.take m).find? fun d => Defines owner c key d).isSome := by
        rw [List.find?_isSome]
        exact ⟨d, hmem, decide_eq_true hdef⟩
      obtain ⟨d', hd'⟩ := Option.isSome_iff_exists.mp hsome
      rw [hd', Option.some_or]
    · rw [if_neg hdef, Option.or_none]
  · rw [max_eq_right (Nat.le_succ k), List.take_add_one, hd, List.find?_append]
    congr 1
    by_cases hdef : Defines owner c key d
    · simp [hdef]
    · simp [hdef]

/-- Registering the `k`-th descriptor, none before it being left out, brings the registration past
the `k`-th. -/
theorem Registered.enterElement (h : Registered owner ds m s) {k c : ℕ} {d : ElementDescriptor}
    (hk : k ≤ m) (hd : ds[k]? = some d) (hown : owner d.factoryName = some c)
    (hc : (s.instances c).isSome) :
    Registered owner ds (max m (k + 1)) (enterElement s c d) := by
  have hlen : k < ds.length := by
    rw [List.getElem?_eq_some_iff] at hd
    exact hd.1
  have hle := h.le_length
  refine ⟨by omega, ?_, ?_, ?_, ?_, ?_⟩
  · rw [enterElement_elemDescList]
    exact h.list
  · intro name
    rw [enterElement_factoryMap]
    exact h.names name
  · intro d' hd' c' hown'
    rw [enterElement_isSome]
    rcases Nat.lt_or_eq_of_le hk with hlt | rfl
    · rw [max_eq_left hlt] at hd'
      exact h.owners d' hd' c' hown'
    · rw [max_eq_right (Nat.le_succ k), List.take_add_one, hd, List.mem_append] at hd'
      rcases hd' with hbefore | hlast
      · exact h.owners d' hbefore c' hown'
      · obtain rfl : d' = d := by simpa using hlast
        rw [hown, Option.some_inj] at hown'
        rw [← hown']
        exact hc
  · intro c' map' hmap' key
    -- what the instance held decides; `d` fills in only where that is nothing
    obtain ⟨map, hmap, hor⟩ := enterElement_held hmap'
    rw [hor, h.held c' map hmap, firstDesc_take_max hk hd, Option.map_or]
    congr 1
    have hiff : Defines owner c' key d ↔
        c' = c ∧ d.elementClassName = key ∧ InitSucceeds d.init := by
      unfold Defines
      rw [hown, Option.some_inj, eq_comm]
    by_cases hdef : Defines owner c' key d
    · rw [if_pos hdef, if_pos (hiff.mp hdef), Option.map_some]
    · rw [if_neg hdef, if_neg fun hd => hdef (hiff.mpr hd), Option.map_none]
  · intro hinit
    rw [enterElement_isInit] at hinit
    have := h.done hinit
    omega

/-- A descriptor without a factory, whose `init` fails, is passed over. -/
theorem Registered.callInit (h : Registered owner ds m s) {k : ℕ} {d : ElementDescriptor}
    (hk : k ≤ m) (hd : ds[k]? = some d) (hown : owner d.factoryName = none) :
    Registered owner ds (max m (k + 1)) (s.callInit d) := by
  have hlen : k < ds.length := (List.getElem?_eq_some_iff.mp hd).1
  have hle := h.le_length
  refine ⟨by omega, ?_, ?_, ?_, ?_, ?_⟩
  · rw [callInit_elemDescList]
    exact h.list
  · intro name
    rw [callInit_factoryMap]
    exact h.names name
  · intro d' hd' c' hown'
    rw [callInit_instances]
    rcases Nat.lt_or_eq_of_le hk with hlt | rfl
    · rw [max_eq_left hlt] at hd'
      exact h.owners d' hd' c' hown'
    · rw [max_eq_right (Nat.le_succ k), List.take_add_one, hd, List.mem_append] at hd'
      rcases hd' with hbefore | hlast
      · exact h.owners d' hbefore c' hown'
      · obtain rfl : d' = d := by simpa using hlast
        rw [hown] at hown'
        cases hown'
  · intro c' map hmap key
    rw [callInit_instances] at hmap
    have hdef : ¬ Defines owner c' key d := by
      rintro ⟨howner, -⟩
      rw [hown] at howner
      cases howner
    rw [h.held c' map hmap, firstDesc_take_max hk hd, if_neg hdef, Option.or_none]
  · intro hinit
    rw [callInit_isInit] at hinit
    have := h.done hinit
    omega

/-! ### The nested passes -/

/-- Every descriptor names a factory, but for those whose `init` fails. -/
def Owned (owner : String → Option ℕ) (ds : List ElementDescriptor) (classes : Finset ℕ) : Prop :=
  ∀ d ∈ ds, (∃ c ∈ classes, owner d.factoryName = some c) ∨
    owner d.factoryName = none ∧ ¬ InitSucceeds d.init

/-- What the state `s'` after a call has gained over the state `s` before it. -/
structure Advances (owner : String → Option ℕ) (ds : List ElementDescriptor) (m : ℕ)
    (s : Statics) (m' : ℕ) (s' : Statics) : Prop where
  le : m ≤ m'
  registered : Registered owner ds m' s'
  keeps : Keeps s s'
  isInit : s.isInit = true → s'.isInit = true

theorem Advances.trans {m' m'' : ℕ} {s' s'' : Statics} (h : Advances owner ds m s m' s')
    (h' : Advances owner ds m' s' m'' s'') : Advances owner ds m s m'' s'' where
  le := h.le.trans h'.le
  registered := h'.registered
  keeps := h.keeps.trans h'.keeps
  isInit := fun hinit => h'.isInit (h.isInit hinit)

/-- `getInstance` returns from every state with fewer than `fuel` classes to create: the instance
of the class is there, and if it was not there before then the registration is complete. -/
def Serves (owner : String → Option ℕ) (ds : List ElementDescriptor) (classes : Finset ℕ)
    (fuel : ℕ) (getInstance : Statics → ℕ → Checked Statics) : Prop :=
  ∀ m s c, Registered owner ds m s → c ∈ classes → (pending classes s).card < fuel →
    ∃ m' s', getInstance s c = .ok s' ∧ Advances owner ds m s m' s' ∧
      (s'.instances c).isSome ∧ (s.instances c = none → s'.isInit = true)

variable {classes : Finset ℕ} {fuel : ℕ} {g : Statics → ℕ → Checked Statics}

/-- A name under which no factory is registered gives a null pointer. -/
theorem getFactoryInstanceByName_of_none (h : Registered owner ds m s) {name : String}
    (hname : owner name = none) :
    getFactoryInstanceByName g s name =
      .ok ({ s with factoryMap := (s.factoryMap.index name).1 }, none) := by
  have hptr : s.factoryMap.pointer name = none := by
    have hnames := h.names name
    rwa [hname, Option.map_eq_none_iff] at hnames
  unfold getFactoryInstanceByName
  rw [PtrMap.index_snd, hptr]

/-- A name under which a factory is registered gives the instance of its class. -/
theorem getFactoryInstanceByName_of_some (hg : Serves owner ds classes fuel g)
    (h : Registered owner ds m s) {name : String} {c : ℕ} (hname : owner name = some c)
    (hc : c ∈ classes) (hfuel : (pending classes s).card < fuel) :
    ∃ m' s', getFactoryInstanceByName g s name = .ok (s', some c) ∧ Advances owner ds m s m' s' ∧
      (s'.instances c).isSome ∧ (s.instances c = none → s'.isInit = true) := by
  have hnames := h.names name
  rw [hname, Option.map_eq_some_iff] at hnames
  obtain ⟨f, hptr, hclass⟩ := hnames
  obtain ⟨m', s', hrun, hadv, hinst, hnew⟩ := hg m _ c (h.index name) hc hfuel
  refine ⟨m', s', ?_, ⟨hadv.le, hadv.registered, hadv.keeps, hadv.isInit⟩, hinst, hnew⟩
  unfold getFactoryInstanceByName
  rw [PtrMap.index_snd, hptr]
  simp only [hclass, hrun, Checked.ok_bind]

/-- One step of a pass that has come to the `k`-th descriptor. -/
theorem initStep_advances (hg : Serves owner ds classes fuel g) (h : Registered owner ds m s)
    {k c : ℕ} {d : ElementDescriptor} (hk : k ≤ m) (hd : ds[k]? = some d)
    (hown : owner d.factoryName = some c) (hc : c ∈ classes)
    (hfuel : (pending classes s).card < fuel) :
    ∃ m' s', initStep g s d = .ok s' ∧ Advances owner ds m s m' s' ∧ k < m' := by
  obtain ⟨m₁, s₁, hrun, hadv, hinst, -⟩ := getFactoryInstanceByName_of_some hg h hown hc hfuel
  have hreg := hadv.registered.enterElement (hk.trans hadv.le) hd hown hinst
  refine ⟨max m₁ (k + 1), enterElement s₁ c d, ?_, ?_, by omega⟩
  · unfold initStep
    rw [hrun, Checked.ok_bind]
    exact registerElement_of_some s₁ c d
  · apply hadv.trans
    refine ⟨le_max_left _ _, hreg, fun c' hc' => ?_, fun hinit => ?_⟩
    · rwa [enterElement_isSome]
    · rwa [enterElement_isInit]

/-- The same at a descriptor without a factory, whose `init` fails. -/
theorem initStep_of_none (h : Registered owner ds m s) {k : ℕ} {d : ElementDescriptor} (hk : k ≤ m)
    (hd : ds[k]? = some d) (hown : owner d.factoryName = none) (hfails : ¬ InitSucceeds d.init) :
    ∃ s', initStep g s d = .ok s' ∧ s' = Statics.callInit
        { s with factoryMap := (s.factoryMap.index d.factoryName).1 } d ∧
      Advances owner ds m s (max m (k + 1)) s' := by
  refine ⟨_, ?_, rfl, le_max_left _ _, (h.index d.factoryName).callInit hk hd hown, ?_, ?_⟩
  · unfold initStep
    rw [getFactoryInstanceByName_of_none h hown, Checked.ok_bind]
    dsimp only
    rw [registerElement_of_none, if_neg hfails]
  · intro c hc
    rwa [callInit_instances]
  · intro hinit
    rwa [callInit_isInit]

/-- The rest of a pass, from the `k`-th descriptor on, registers every descriptor.  Induction on
the rest of the list; the nested passes move `m` ahead of `k`. -/
theorem foldlM_initStep_advances (hg : Serves owner ds classes fuel g)
    (hown : Owned owner ds classes)
    (rest : List ElementDescriptor) {k : ℕ} (hrest : ds.drop k = rest)
    (h : Registered owner ds m s) (hk : k ≤ m) (hfuel : (pending classes s).card < fuel) :
    ∃ s', rest.foldlM (initStep g) s = .ok s' ∧ Advances owner ds m s ds.length s' := by
  induction rest generalizing k m s with
  | nil =>
    have hlen : ds.length ≤ k := List.drop_eq_nil_iff.mp hrest
    -- the pass is at its end, and no nested pass can be further
    have hm : m = ds.length := le_antisymm h.le_length (hlen.trans hk)
    exact ⟨s, rfl, hm.le, hm ▸ h, Keeps.refl s, id⟩
  | cons d rest ih =>
    have hd : ds[k]? = some d := by
      rw [← List.head?_drop, hrest]
      rfl
    have hstep : ∃ m' s', initStep g s d = .ok s' ∧ Advances owner ds m s m' s' ∧ k < m' := by
      rcases hown d (List.mem_of_getElem? hd) with ⟨c, hc, hdc⟩ | ⟨hnone, hfails⟩
      · exact initStep_advances hg h hk hd hdc hc hfuel
      · obtain ⟨s', hrun, -, hadv⟩ := initStep_of_none h hk hd hnone hfails
        exact ⟨_, s', hrun, hadv, by omega⟩
    obtain ⟨m₁, s₁, hrun, hadv, hlt⟩ := hstep
    have hrest' : ds.drop (k + 1) = rest := by
      rw [← List.tail_drop, hrest]
      rfl
    have hfuel' : (pending classes s₁).card < fuel :=
      (Finset.card_le_card (hadv.keeps.pending_subset classes)).trans_lt hfuel
    obtain ⟨s', hrun', hadv'⟩ := ih hrest' hadv.registered hlt hfuel'
    refine ⟨s', ?_, hadv.trans hadv'⟩
    rw [List.foldlM_cons, hrun, Checked.ok_bind, hrun']

/-- `init` completes the registration. -/
theorem init_advances (hg : Serves owner ds classes fuel g)
    (hown : Owned owner ds classes) (h : Registered owner ds m s)
    (hfuel : (pending classes s).card < fuel) :
    ∃ s', init g s = .ok s' ∧ Advances owner ds m s ds.length s' ∧ s'.isInit = true := by
  unfold init
  by_cases hinit : s.isInit = true
  · have hm := h.done hinit
    rw [if_pos hinit]
    exact ⟨s, rfl, ⟨hm.le, hm ▸ h, Keeps.refl s, id⟩, hinit⟩
  · obtain ⟨s', hrun, hadv⟩ :=
      foldlM_initStep_advances hg hown ds (k := 0) rfl h (Nat.zero_le m) hfuel
    rw [if_neg hinit, h.list, hrun, Checked.ok_bind]
    refine ⟨{ s' with isInit := true }, rfl, ⟨hadv.le, ?_, hadv.keeps, fun _ => rfl⟩, rfl⟩
    have hreg := hadv.registered
    exact ⟨hreg.le_length, hreg.list, hreg.names, hreg.owners, hreg.held, fun _ => rfl⟩

/-- Creating an instance leaves one class less to create. -/
theorem card_pending_create_lt {c : ℕ} (hc : c ∈ classes) (hnone : s.instances c = none) :
    (pending classes (create s c)).card < (pending classes s).card := by
  apply Finset.card_lt_card
  rw [Finset.ssubset_iff_of_subset]
  · refine ⟨c, ?_, ?_⟩
    · unfold pending
      rw [Finset.mem_filter, hnone]
      exact ⟨hc, rfl⟩
    · unfold pending
      rw [Finset.mem_filter, create_instances_self]
      rintro ⟨-, hsome⟩
      cases hsome
  · exact (keeps_create s c).pending_subset classes

/-- `getInstance` returns if its fuel exceeds the number of classes that are not created yet. -/
theorem getInstance_serves (hown : Owned owner ds classes)
    (fuel : ℕ) : Serves owner ds classes fuel (getInstance fuel) := by
  induction fuel with
  | zero =>
    intro m s c _ _ hfuel
    omega
  | succ fuel ih =>
    intro m s c h hc hfuel
    unfold getInstance
    cases hinst : s.instances c with
    | some map =>
      refine ⟨m, s, rfl, ⟨le_rfl, h, Keeps.refl s, id⟩, ?_, ?_⟩
      · rw [hinst]
        rfl
      · intro hnone
        cases hnone
    | none =>
      -- the nested calls see one class less to create
      have hlt := card_pending_create_lt hc hinst
      obtain ⟨s', hrun, hadv, hinit⟩ := init_advances ih hown (h.create hinst) (by omega)
      have hcreated : ((create s c).instances c).isSome := by
        rw [create_instances_self]
        rfl
      exact ⟨ds.length, s', hrun,
        ⟨hadv.le, hadv.registered, (keeps_create s c).trans hadv.keeps, hadv.isInit⟩,
        hadv.keeps c hcreated, fun _ => hinit⟩

/-! ### The lookups of a program -/

/-- Between the lookups of a program no pass is under way: an instance is there only once the
registration is complete. -/
def Settled (s : Statics) : Prop := ∀ c, (s.instances c).isSome → s.isInit = true

/-- Every lookup returns and leaves no pass under way. -/
theorem lookup_advances (hown : Owned owner ds classes)
    (hclasses : ∀ name c, owner name = some c → c ∈ classes) (h : Registered owner ds m s)
    (hsettled : Settled s) (hfuel : (pending classes s).card < fuel) (name : String) :
    ∃ m' s', getFactoryInstanceByName (getInstance fuel) s name = .ok (s', owner name) ∧
      Advances owner ds m s m' s' ∧ Settled s' ∧
      ∀ c, owner name = some c → (s'.instances c).isSome := by
  cases hname : owner name with
  | none =>
    refine ⟨m, _, getFactoryInstanceByName_of_none h hname,
      ⟨le_rfl, h.index name, Keeps.refl s, id⟩, hsettled, ?_⟩
    rintro c ⟨⟩
  | some c =>
    obtain ⟨m', s', hrun, hadv, hinst, hnew⟩ := getFactoryInstanceByName_of_some
      (getInstance_serves hown fuel) h hname (hclasses name c hname) hfuel
    refine ⟨m', s', hrun, hadv, ?_, ?_⟩
    · intro _ _
      cases hc : s.instances c with
      | none => exact hnew hc
      | some map =>
        apply hadv.isInit
        apply hsettled c
        rw [hc]
        rfl
    · rintro c' ⟨⟩
      exact hinst

/-- Every list of lookups returns and leaves no pass under way.  Induction on the list. -/
theorem lookups_advances (hown : Owned owner ds classes)
    (hclasses : ∀ name c, owner name = some c → c ∈ classes) (h : Registered owner ds m s)
    (hsettled : Settled s) (hfuel : (pending classes s).card < fuel) (names : List String) :
    ∃ m' s', lookups fuel s names = .ok s' ∧ Advances owner ds m s m' s' ∧ Settled s' ∧
      ∀ name ∈ names, ∀ c, owner name = some c → (s'.instances c).isSome := by
  unfold lookups
  induction names generalizing m s with
  | nil =>
    refine ⟨m, s, rfl, ⟨le_rfl, h, Keeps.refl s, id⟩, hsettled, ?_⟩
    intro name hname
    cases hname
  | cons name names ih =>
    obtain ⟨m₁, s₁, hrun, hadv, hsettled₁, hinst⟩ :=
      lookup_advances hown hclasses h hsettled hfuel name
    have hfuel₁ : (pending classes s₁).card < fuel :=
      (Finset.card_le_card (hadv.keeps.pending_subset classes)).trans_lt hfuel
    obtain ⟨m', s', hrun', hadv', hsettled', hinst'⟩ := ih hadv.registered hsettled₁ hfuel₁
    refine ⟨m', s', ?_, hadv.trans hadv', hsettled', ?_⟩
    · rw [List.foldlM_cons, hrun]
      exact hrun'
    · intro name' hname' c hc
      rcases List.mem_cons.mp hname' with rfl | hlater
      · exact hadv'.keeps c (hinst c hc)
      · exact hinst' name' hlater c hc

/-- In a complete registration every factory holds the first descriptor of each class name. -/
theorem Registered.elemDesc_eq (h : Registered owner ds ds.length s) (c : ℕ) (key : String) :
    s.elemDesc c key = firstDesc owner ds c key := by
  have howners := h.owners
  have hheld := h.held
  rw [List.take_length] at howners hheld
  unfold Statics.elemDesc
  cases hinst : s.instances c with
  | some map => exact PtrMap.pointer_eq_of_apply (hheld c map hinst key)
  | none =>
    -- a class without an instance owns no descriptor
    symm
    unfold firstDesc
    rw [Option.bind_none, List.find?_eq_none]
    intro d hd hdef
    have hsome := howners d hd c (of_decide_eq_true hdef).1
    rw [hinst] at hsome
    cases hsome

/-- The factory classes that are registered. -/
def factoryClasses (regs : List StaticInit) : Finset ℕ :=
  ((factoryDescs regs).map FactoryDescriptor.getFactoryInstance).toFinset

theorem mem_factoryClasses_of_classOf {regs : List StaticInit} {name : String} {c : ℕ}
    (h : classOf regs name = some c) : c ∈ factoryClasses regs := by
  unfold classOf factoryOf at h
  rw [Option.map_eq_some_iff] at h
  obtain ⟨d, hd, rfl⟩ := h
  unfold factoryClasses
  rw [List.mem_toFinset]
  exact List.mem_map_of_mem (List.mem_of_find?_eq_some hd)

theorem card_factoryClasses_le (regs : List StaticInit) :
    (factoryClasses regs).card ≤ (factoryDescs regs).length := by
  unfold factoryClasses
  apply (List.toFinset_card_le _).trans
  rw [List.length_map]

/-- Before the first lookup nothing is registered. -/
theorem registered_afterStaticInit (regs : List StaticInit) :
    Registered (classOf regs) (elementDescs regs) 0 (afterStaticInit regs) := by
  obtain ⟨hmap, hlist, hinit, hinst⟩ := afterStaticInit_eq regs
  refine ⟨Nat.zero_le _, hlist, fun name => ?_, ?_, ?_, ?_⟩
  · rw [PtrMap.pointer_eq_of_apply (hmap name)]
    rfl
  · intro d hd
    cases hd
  · intro c map hmap
    rw [hinst] at hmap
    cases hmap
  · intro hdone
    rw [hinit] at hdone
    cases hdone

/-- Between the static initialisers and the first lookup no pass is under way. -/
theorem settled_afterStaticInit (regs : List StaticInit) : Settled (afterStaticInit regs) := by
  intro c hc
  rw [(afterStaticInit_eq regs).2.2.2] at hc
  cases hc

/-- If every element descriptor names a registered factory, it has a class to go to. -/
theorem owner_mem_factoryClasses {regs : List StaticInit}
    (hreg : ∀ d ∈ elementDescs regs, (classOf regs d.factoryName).isSome) :
    Owned (classOf regs) (elementDescs regs) (factoryClasses regs) := by
  intro d hd
  obtain ⟨c, hc⟩ := Option.isSome_iff_exists.mp (hreg d hd)
  exact Or.inl ⟨c, mem_factoryClasses_of_classOf hc, hc⟩

/-- The passes nest no deeper than there are factory descriptors. -/
theorem card_pending_afterStaticInit_lt {regs : List StaticInit} {fuel : ℕ}
    (hfuel : (factoryDescs regs).length < fuel) :
    (pending (factoryClasses regs) (afterStaticInit regs)).card < fuel :=
  (Finset.card_le_card (Finset.filter_subset _ _)).trans_lt
    ((card_factoryClasses_le regs).trans_lt hfuel)

/-- After the static initialisers, if every element descriptor names a registered factory, the
lookups of a program return whatever their order, and once one of them named a registered factory
every factory holds, under each class name, the first descriptor in registration order with that
factory and class name whose `init` succeeded, and nothing where there is none. -/
theorem lookups_afterStaticInit (regs : List StaticInit)
    (hreg : ∀ d ∈ elementDescs regs, (classOf regs d.factoryName).isSome) (fuel : ℕ)
    (hfuel : (factoryDescs regs).length < fuel) (names : List String)
    (hnames : ∃ name ∈ names, (classOf regs name).isSome) :
    ∃ s, lookups fuel (afterStaticInit regs) names = .ok s ∧
      (∀ name ∈ names, ∀ c, classOf regs name = some c → (s.instances c).isSome) ∧
      ∀ c key, s.elemDesc c key = firstDesc (classOf regs) (elementDescs regs) c key := by
  obtain ⟨m, s, hrun, hadv, hsettled', hinst⟩ := lookups_advances (owner_mem_factoryClasses hreg)
    (fun _ _ => mem_factoryClasses_of_classOf) (registered_afterStaticInit regs)
    (settled_afterStaticInit regs) (card_pending_afterStaticInit_lt hfuel) names
  obtain ⟨name, hname, hsome⟩ := hnames
  obtain ⟨c, hc⟩ := Option.isSome_iff_exists.mp hsome
  -- the factory of that name has an instance, so a pass has come to its end
  have hcomplete : m = (elementDescs regs).length :=
    hadv.registered.done (hsettled' c (hinst name hname c hc))
  refine ⟨s, hrun, hinst, ?_⟩
  exact (hcomplete ▸ hadv.registered).elemDesc_eq

/-- Two factories; the first `venc` of `SSC339G` fails, and a second `vif` comes late. -/
def twoFactories : List StaticInit :=
  [.registerElement [⟨"SSC339G", "vif", some 0, 0⟩],
    .registerFactory ⟨"SSC339G", some 0, 0⟩,
    .registerElement [⟨"common", "rtsp-server", some 0, 1⟩],
    .registerFactory ⟨"common", some 0, 1⟩,
    .registerElement [⟨"SSC339G", "venc", some (-1), 2⟩, ⟨"SSC339G", "venc", none, 3⟩],
    .registerElement [⟨"SSC339G", "vif", some 0, 4⟩]]

theorem lookups_afterStaticInit_twoFactories :
    ∃ s, lookups 3 (afterStaticInit twoFactories) ["common", "SSC339G"] = .ok s ∧
      s.elemDesc 0 "vif" = some ⟨"SSC339G", "vif", some 0, 0⟩ ∧
      s.elemDesc 0 "venc" = some ⟨"SSC339G", "venc", none, 3⟩ ∧
      s.elemDesc 0 "rtsp-server" = none := by
  obtain ⟨s, hrun, -, hdesc⟩ := lookups_afterStaticInit twoFactories (by decide) 3
    (by decide) ["common", "SSC339G"] ⟨"common", by decide, by decide⟩
  refine ⟨s, hrun, ?_, ?_, ?_⟩
  · rw [hdesc]
    decide
  · rw [hdesc]
    decide
  · rw [hdesc]
    decide

end Mvr.Factory
