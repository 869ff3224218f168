import Mvr.Factory.Orphans
import Mvr.Player.Elements

/-!
# The elements of the program exist

Whatever the order of the static initialisers, both channels get elements of the right kinds if the
vendor's library starts (`createChannels_of_perm`).  If it does not, its factory is missing, and the
program stops at a null pointer within the second lookup, before the assertion that tests for it.
-/

namespace Mvr.Player

open Factory

/-- Every call of `ST_Sys_Init` succeeds. -/
structure MiSys.Succeeds (mi : MiSys) : Prop where
  miSysInit : mi.miSysInit = 0
  miSysGetVersion : mi.miSysGetVersion = 0
  miSysGetCurPts : mi.miSysGetCurPts = 0
  miSysInitPtsBase : mi.miSysInitPtsBase = 0
  miSysSyncPts : mi.miSysSyncPts = 0

theorem stSysInit_eq_zero_iff {mi : MiSys} : stSysInit mi = 0 ↔ mi.Succeeds := by
  unfold stSysInit
  constructor
  · intro h
    split_ifs at h with h1 h2 h3 h4 h5
    · exact absurd h h1
    · exact absurd h h2
    · exact absurd h h3
    · exact absurd h h4
    · exact absurd h h5
    · exact ⟨not_not.mp h1, not_not.mp h2, not_not.mp h3, not_not.mp h4, not_not.mp h5⟩
  · rintro ⟨h1, h2, h3, h4, h5⟩
    simp [h1, h2, h3, h4, h5]

/-- The elements of a channel, of the kinds that are asked for. -/
def Created.all : Created :=
  ⟨some vifCreateInstance, some vpeCreateInstance, some vencCreateInstance,
    some liveRtspServerCreateInstance⟩

variable {mi : MiSys} {regs : List StaticInit}

/-! ### What the names mean -/

theorem factoryDescs_staticInits : factoryDescs (staticInits mi) =
    [⟨"common", some 0, factoryCommon⟩, ⟨"SSC339G", some (stSysInit mi), ssc339gFactory⟩] := rfl

theorem elementDescs_staticInits : elementDescs (staticInits mi) =
    [⟨"common", "ws-server", some 0, websocketServerCreateInstance⟩,
      ⟨"common", "rtsp-server", some 0, liveRtspServerCreateInstance⟩,
      ⟨"SSC339G", "vif", some 0, vifCreateInstance⟩,
      ⟨"SSC339G", "vpe", some 0, vpeCreateInstance⟩,
      ⟨"SSC339G", "venc", some 0, vencCreateInstance⟩] := rfl

theorem classOf_of_perm (h : (staticInits mi).Perm regs) :
    classOf (staticInits mi) = classOf regs := by
  refine classOf_perm h fun f hf f' hf' hname => ?_
  rw [factoryDescs_staticInits] at hf hf'
  simp only [List.mem_cons, List.not_mem_nil, or_false] at hf hf'
  rcases hf with rfl | rfl <;> rcases hf' with rfl | rfl
  · rfl
  · exact absurd hname (show "common" ≠ "SSC339G" by decide)
  · exact absurd hname (show "SSC339G" ≠ "common" by decide)
  · rfl

theorem elementClassNames_nodup : ((elementDescs (staticInits mi)).map
    ElementDescriptor.elementClassName).Nodup := by
  rw [elementDescs_staticInits]
  decide

theorem firstDesc_of_perm (h : (staticInits mi).Perm regs) (owner : String → Option ℕ) (c : ℕ)
    (key : String) : firstDesc owner (elementDescs (staticInits mi)) c key =
      firstDesc owner (elementDescs regs) c key :=
  firstDesc_perm (elementDescs_perm h) (fun _ hd _ hd' hkey _ =>
    List.inj_on_of_nodup_map elementClassNames_nodup hd hd' hkey) c key

theorem classOf_common : classOf (staticInits mi) "common" = some factoryCommon := rfl

theorem classOf_ssc339g (h : stSysInit mi = 0) :
    classOf (staticInits mi) "SSC339G" = some ssc339gFactory := by
  simp [classOf, factoryOf, factoryDescs_staticInits, InitSucceeds, h]

theorem classOf_ssc339g_of_ne (h : stSysInit mi ≠ 0) :
    classOf (staticInits mi) "SSC339G" = none := by
  simp [classOf, factoryOf, factoryDescs_staticInits, InitSucceeds, h]

/-! ### The elements of a channel -/

/-- The state between two channels, once a factory was looked up. -/
structure Ready (regs : List StaticInit) (fuel : ℕ) (s : Statics) : Prop where
  registered : ∃ m, Registered (classOf regs) (elementDescs regs) m s
  settled : Factory.Settled s
  fuel_lt : (pending (factoryClasses regs) s).card < fuel

variable {fuel : ℕ} {s : Statics}

/-- Of a complete registration every kind of element can be created. -/
theorem create_of_complete (hdesc : ∀ c key, s.elemDesc c key =
      firstDesc (classOf (staticInits mi)) (elementDescs (staticInits mi)) c key)
    {d : ElementDescriptor} (hd : d ∈ elementDescs (staticInits mi)) {c : ℕ}
    (hc : classOf (staticInits mi) d.factoryName = some c) :
    createElementByName s c d.elementClassName = .ok (s, some d.createElementInstance) := by
  have hok : InitSucceeds d.init := by
    rw [elementDescs_staticInits] at hd
    simp only [List.mem_cons, List.not_mem_nil, or_false] at hd
    rcases hd with rfl | rfl | rfl | rfl | rfl <;> rfl
  apply createElementByName_of_elemDesc
  rw [hdesc]
  exact firstDesc_of_mem elementClassNames_nodup hd ⟨hc, rfl, hok⟩

section Starts

variable (hperm : (staticInits mi).Perm regs) (hinit : stSysInit mi = 0)
include hperm hinit

theorem classOf_isSome : ∀ d ∈ elementDescs regs, (classOf regs d.factoryName).isSome := by
  intro d hd
  rw [← classOf_of_perm hperm]
  rw [← (elementDescs_perm hperm).mem_iff, elementDescs_staticInits] at hd
  simp only [List.mem_cons, List.not_mem_nil, or_false] at hd
  rcases hd with rfl | rfl | rfl | rfl | rfl
  · rw [classOf_common]; rfl
  · rw [classOf_common]; rfl
  · rw [classOf_ssc339g hinit]; rfl
  · rw [classOf_ssc339g hinit]; rfl
  · rw [classOf_ssc339g hinit]; rfl

/-- A lookup of either factory gives it, and leaves the registration complete. -/
theorem lookup_of_ready (h : Ready regs fuel s) {name : String} {c : ℕ}
    (hname : classOf (staticInits mi) name = some c) :
    ∃ s', getFactoryInstanceByName (getInstance fuel) s name = .ok (s', some c) ∧
      Ready regs fuel s' ∧ ∀ c' key, s'.elemDesc c' key =
        firstDesc (classOf (staticInits mi)) (elementDescs (staticInits mi)) c' key := by
  obtain ⟨⟨m, hreg⟩, hsettled, hfuel⟩ := h
  obtain ⟨m', s', hrun, hadv, hsettled', hinst⟩ := lookup_advances
    (owner_mem_factoryClasses (classOf_isSome hperm hinit))
    (fun _ _ => mem_factoryClasses_of_classOf) hreg hsettled hfuel name
  rw [← classOf_of_perm hperm, hname] at hrun
  have hdone := hadv.registered.done
    (hsettled' c (hinst c (by rw [← classOf_of_perm hperm, hname])))
  refine ⟨s', hrun, ⟨⟨m', hadv.registered⟩, hsettled', ?_⟩, fun c' key => ?_⟩
  · exact (Finset.card_le_card (hadv.keeps.pending_subset _)).trans_lt hfuel
  · subst hdone
    rw [hadv.registered.elemDesc_eq, firstDesc_of_perm hperm, classOf_of_perm hperm]

theorem createElements_of_ready (h : Ready regs fuel s) :
    ∃ s', createElements fuel s = .ok (s', Created.all) ∧ Ready regs fuel s' := by
  have hssc := classOf_ssc339g hinit
  obtain ⟨s₁, hrun₁, hready₁, -⟩ := lookup_of_ready hperm hinit h hssc
  obtain ⟨s₂, hrun₂, hready₂, hdesc⟩ := lookup_of_ready hperm hinit hready₁ classOf_common
  have hvif := create_of_complete hdesc (d := ⟨"SSC339G", "vif", some 0, vifCreateInstance⟩)
    (by simp [elementDescs_staticInits]) hssc
  have hvpe := create_of_complete hdesc (d := ⟨"SSC339G", "vpe", some 0, vpeCreateInstance⟩)
    (by simp [elementDescs_staticInits]) hssc
  have hvenc := create_of_complete hdesc (d := ⟨"SSC339G", "venc", some 0, vencCreateInstance⟩)
    (by simp [elementDescs_staticInits]) hssc
  have hrtsp := create_of_complete hdesc
    (d := ⟨"common", "rtsp-server", some 0, liveRtspServerCreateInstance⟩)
    (by simp [elementDescs_staticInits]) classOf_common
  refine ⟨s₂, ?_, hready₂⟩
  unfold createElements
  rw [hrun₁, Checked.ok_bind, hrun₂, Checked.ok_bind]
  dsimp only at hvif hvpe hvenc hrtsp ⊢
  rw [hvif, Checked.ok_bind]
  dsimp only
  rw [hvpe, Checked.ok_bind]
  dsimp only
  rw [hvenc, Checked.ok_bind]
  dsimp only
  rw [hrtsp, Checked.ok_bind]
  rfl

end Starts

theorem ready_afterStaticInit (hfuel : (factoryDescs regs).length < fuel) :
    Ready regs fuel (afterStaticInit regs) :=
  ⟨⟨0, registered_afterStaticInit regs⟩, settled_afterStaticInit regs,
    card_pending_afterStaticInit_lt hfuel⟩

/-- Without the factory `SSC339G` the lookup of the other one comes to its elements. -/
theorem createElements_of_failure (hperm : (staticInits mi).Perm regs) (hinit : stSysInit mi ≠ 0)
    (hfuel : (factoryDescs regs).length < fuel) :
    createElements fuel (afterStaticInit regs) = .error .badPointer := by
  have hnone : classOf regs "SSC339G" = none := by
    rw [← classOf_of_perm hperm]
    exact classOf_ssc339g_of_ne hinit
  have hcommon : classOf regs "common" = some factoryCommon := by
    rw [← classOf_of_perm hperm]
    exact classOf_common
  have horphan : ∃ d ∈ elementDescs regs, IsOrphan (classOf regs) d := by
    refine ⟨⟨"SSC339G", "vif", some 0, vifCreateInstance⟩, ?_, hnone, rfl⟩
    rw [← (elementDescs_perm hperm).mem_iff]
    simp [elementDescs_staticInits]
  have hunfinished := unfinished_afterStaticInit regs
  have hclasses : ∀ name c, classOf regs name = some c → c ∈ factoryClasses regs :=
    fun _ _ => mem_factoryClasses_of_classOf
  have hstops := getInstance_of_orphan hclasses horphan fuel
  have hget := hstops _ factoryCommon ((hunfinished.index "SSC339G").index "common")
    (mem_factoryClasses_of_classOf hcommon)
    (congrFun (afterStaticInit_eq regs).2.2.2 factoryCommon)
    (card_pending_afterStaticInit_lt hfuel)
  unfold createElements
  rw [hunfinished.lookup_of_none hnone, Checked.ok_bind]
  dsimp only
  rw [(hunfinished.index "SSC339G").lookup_of_some hcommon, hget]
  rfl

/-- **The elements of the program exist**: whatever the order of the static initialisers, both
channels get their elements if the vendor's library starts, and otherwise the program stops at a
null pointer. -/
theorem createChannels_of_perm (mi : MiSys) {regs : List StaticInit}
    (hperm : (staticInits mi).Perm regs) {fuel : ℕ} (hfuel : 2 < fuel) :
    (mi.Succeeds → ∃ s, createChannels fuel (afterStaticInit regs) =
      .ok (s, Created.all, Created.all)) ∧
    (¬ mi.Succeeds → createChannels fuel (afterStaticInit regs) = .error .badPointer) := by
  have hlength : (factoryDescs regs).length < fuel := by
    have hperm' : (factoryDescs (staticInits mi)).Perm (factoryDescs regs) := hperm.filterMap _
    rw [← hperm'.length_eq, factoryDescs_staticInits]
    exact hfuel
  unfold createChannels
  constructor
  · intro hmi
    have hinit := stSysInit_eq_zero_iff.mpr hmi
    obtain ⟨s₁, hrun₁, hready₁⟩ := createElements_of_ready hperm hinit
      (ready_afterStaticInit hlength)
    obtain ⟨s₂, hrun₂, -⟩ := createElements_of_ready hperm hinit hready₁
    refine ⟨s₂, ?_⟩
    rw [hrun₁, Checked.ok_bind]
    dsimp only
    rw [hrun₂, Checked.ok_bind]
    rfl
  · intro hmi
    rw [createElements_of_failure hperm (fun h => hmi (stSysInit_eq_zero_iff.mp h)) hlength]
    rfl

/-- The elements register before the factories, and the library starts. -/
theorem createChannels_reversed : ∃ s, createChannels 3
    (afterStaticInit (staticInits ⟨0, 0, 0, 0, 0⟩).reverse) = .ok (s, Created.all, Created.all) :=
  (createChannels_of_perm ⟨0, 0, 0, 0, 0⟩ (List.reverse_perm _).symm (by decide)).1
    ⟨rfl, rfl, rfl, rfl, rfl⟩

end Mvr.Player
