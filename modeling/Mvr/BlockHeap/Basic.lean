import Mvr.Checked.Basic
import Mathlib.Data.List.Perm.Basic
import Mathlib.Logic.Function.Basic

/-!
# A heap of blocks

`malloc` hands out a block that nobody else has, with whatever the allocator left in it, or stops
the computation; `free` takes it back; and an access outside a block is a fault.  `Owns` lists the
blocks that are allocated: a computation that starts and ends with the same list has neither leaked
a block nor freed one twice.

A computation `Yields` a property if it returns a value that has it, or if the allocator has
stopped it.  The rules for `Yields` follow the computation, and those for `Owns` the operations of
the heap.
-/

namespace Mvr.BlockHeap

/-- An address; zero is null. -/
abbrev Ptr := ℕ

/-- The blocks that are allocated. -/
abbrev Heap (β : Type) := Ptr → Option (List β)

/-- An allocator: what it answers depends on the heap and on the size. -/
structure Allocator (β : Type) where
  /-- `none` if there is no memory. -/
  find : Heap β → ℕ → Option (Ptr × List β)
  find_spec : ∀ heap n p block, find heap n = some (p, block) →
    p ≠ 0 ∧ heap p = none ∧ block.length = n

/-- The allocator has no memory, and stops the program. -/
def outOfMemory : Fault := .uncaught "abort"

variable {β : Type} {al : Allocator β} {heap : Heap β}

/-- `malloc`, of an allocator that never returns null. -/
def malloc (al : Allocator β) (heap : Heap β) (n : ℕ) : Checked (Ptr × Heap β) :=
  match al.find heap n with
  | none => .error outOfMemory
  | some (p, block) => .ok (p, Function.update heap p (some block))

/-- The block at an address. -/
def deref (heap : Heap β) (p : Ptr) : Checked (List β) :=
  match heap p with
  | none => .error .badPointer
  | some block => .ok block

/-- `free` of a pointer that is not null. -/
def free (heap : Heap β) (p : Ptr) : Checked (Heap β) := do
  let _ ← deref heap p
  pure (Function.update heap p none)

/-- The block with other bytes from an offset on. -/
def overwrite (block : List β) (off : ℕ) (bytes : List β) : List β :=
  block.take off ++ bytes ++ block.drop (off + bytes.length)

/-- Bytes are copied into a block. -/
def write (heap : Heap β) (p : Ptr) (off : ℕ) (bytes : List β) : Checked (Heap β) := do
  let block ← deref heap p
  if off + bytes.length ≤ block.length then
    pure (Function.update heap p (some (overwrite block off bytes)))
  else
    .error (.outOfBounds (off + bytes.length))

theorem overwrite_zero {block bytes : List β} (h : bytes.length = block.length) :
    overwrite block 0 bytes = bytes := by
  unfold overwrite
  rw [List.take_zero, List.nil_append, Nat.zero_add, h, List.drop_length, List.append_nil]

/-- A block that is filled from its beginning to its end. -/
theorem overwrite_overwrite {block fst snd : List β}
    (h : fst.length + snd.length = block.length) :
    overwrite (overwrite block 0 fst) fst.length snd = fst ++ snd := by
  have hfirst : overwrite block 0 fst = fst ++ block.drop fst.length := by
    unfold overwrite
    rw [List.take_zero, List.nil_append, Nat.zero_add]
  rw [hfirst]
  unfold overwrite
  have hrest : (fst ++ block.drop fst.length).drop (fst.length + snd.length) = [] :=
    List.drop_eq_nil_of_le (by rw [List.length_append, List.length_drop]; omega)
  rw [List.take_left, hrest, List.append_nil]

/-! ### Computations the allocator may stop -/

/-- The computation returns a value with the property, unless there is no memory. -/
def Yields {α : Type} (x : Checked α) (P : α → Prop) : Prop :=
  x = .error outOfMemory ∨ ∃ a, x = .ok a ∧ P a

namespace Yields

variable {α α' σ ι : Type} {x : Checked α} {P : α → Prop} {Q : α' → Prop}

theorem of_ok {a : α} (h : x = .ok a) (hP : P a) : Yields x P := Or.inr ⟨a, h, hP⟩

protected theorem pure {a : α} (hP : P a) : Yields (pure a) P := of_ok rfl hP

theorem bind {f : α → Checked α'} (h : Yields x P) (hf : ∀ a, P a → Yields (f a) Q) :
    Yields (x >>= f) Q := by
  rcases h with rfl | ⟨a, rfl, hP⟩
  · exact Or.inl rfl
  · exact hf a hP

theorem mono {P' : α → Prop} (h : Yields x P) (hP : ∀ a, P a → P' a) : Yields x P' :=
  h.imp_right fun ⟨a, hx, ha⟩ => ⟨a, hx, hP a ha⟩

/-- The loop rule: what holds of the elements so far and the state is preserved by the body. -/
theorem foldlM {f : σ → ι → Checked σ} {l : List ι} (I : List ι → σ → Prop) {s : σ} (h₀ : I [] s)
    (hstep : ∀ done i s, I done s → Yields (f s i) (I (done ++ [i]))) :
    Yields (l.foldlM f s) (I l) := by
  have hgeneral : ∀ (l done : List ι) (s : σ), I done s →
      Yields (l.foldlM f s) (I (done ++ l)) := by
    intro l
    induction l with
    | nil =>
      intro done s hs
      rw [List.append_nil]
      exact .pure hs
    | cons i l ih =>
      intro done s hs
      rw [List.foldlM_cons]
      refine (hstep done i s hs).bind fun s' hs' => ?_
      have hrest := ih (done ++ [i]) s' hs'
      rwa [List.append_assoc, List.singleton_append] at hrest
  simpa using hgeneral l [] s h₀

end Yields

/-! ### Ownership -/

/-- The blocks are those that are allocated. -/
structure Owns (heap : Heap β) (blocks : List (Ptr × List β)) : Prop where
  nodup : (blocks.map Prod.fst).Nodup
  ne_zero : 0 ∉ blocks.map Prod.fst
  eq_some_iff : ∀ p block, heap p = some block ↔ (p, block) ∈ blocks

namespace Owns

variable {p : Ptr} {block : List β} {blocks blocks' : List (Ptr × List β)}

theorem perm (h : Owns heap blocks) (hperm : blocks.Perm blocks') : Owns heap blocks' where
  nodup := (hperm.map Prod.fst).nodup_iff.mp h.nodup
  ne_zero hmem := h.ne_zero ((hperm.map Prod.fst).mem_iff.mpr hmem)
  eq_some_iff p block := (h.eq_some_iff p block).trans hperm.mem_iff

theorem deref_eq (h : Owns heap ((p, block) :: blocks)) : deref heap p = .ok block := by
  unfold deref
  rw [(h.eq_some_iff p block).mpr (List.mem_cons_self ..)]

theorem ptr_ne_zero (h : Owns heap ((p, block) :: blocks)) : p ≠ 0 := by
  rintro rfl
  exact h.ne_zero (List.mem_cons_self ..)

theorem ptr_notMem (h : Owns heap ((p, block) :: blocks)) : p ∉ blocks.map Prod.fst := by
  have hnodup := h.nodup
  rw [List.map_cons, List.nodup_cons] at hnodup
  exact hnodup.1

/-- The other blocks are untouched when a block is put in its place. -/
theorem update_eq_some_iff (hp : p ∉ blocks.map Prod.fst)
    (h : ∀ r ≠ p, ∀ content, heap r = some content ↔ (r, content) ∈ blocks) (r : Ptr)
    (content : List β) : Function.update heap p (some block) r = some content ↔
      (r, content) ∈ (p, block) :: blocks := by
  by_cases hr : r = p
  · subst hr
    rw [Function.update_self, Option.some_inj, List.mem_cons, Prod.mk.injEq, eq_comm]
    refine ⟨fun heq => Or.inl ⟨rfl, heq⟩, fun hmem => ?_⟩
    rcases hmem with ⟨-, heq⟩ | hmem
    · exact heq
    · exact absurd (List.mem_map_of_mem hmem) hp
  · rw [Function.update_of_ne hr, h r hr, List.mem_cons, Prod.mk.injEq]
    simp only [hr, false_and, false_or]

theorem eq_some_iff_of_ne (h : Owns heap ((p, block) :: blocks)) {r : Ptr} (hr : r ≠ p)
    (content : List β) : heap r = some content ↔ (r, content) ∈ blocks := by
  rw [h.eq_some_iff, List.mem_cons, Prod.mk.injEq]
  simp only [hr, false_and, false_or]

/-- A block is replaced. -/
theorem update (h : Owns heap ((p, block) :: blocks)) (block' : List β) :
    Owns (Function.update heap p (some block')) ((p, block') :: blocks) where
  nodup := h.nodup
  ne_zero := h.ne_zero
  eq_some_iff := update_eq_some_iff h.ptr_notMem fun _ hr => h.eq_some_iff_of_ne hr

/-- A new block is nobody else's. -/
theorem malloc (h : Owns heap blocks) (al : Allocator β) (n : ℕ) :
    Yields (malloc al heap n) fun res => ∃ block : List β, block.length = n ∧
      Owns res.2 ((res.1, block) :: blocks) := by
  unfold BlockHeap.malloc
  cases hfind : al.find heap n with
  | none => exact Or.inl rfl
  | some found =>
    obtain ⟨p, block⟩ := found
    obtain ⟨hp, hfree, hlen⟩ := al.find_spec _ _ _ _ hfind
    have hnew : p ∉ blocks.map Prod.fst := by
      intro hmem
      obtain ⟨⟨p', block'⟩, hmem', rfl⟩ := List.mem_map.mp hmem
      rw [(h.eq_some_iff p' block').mpr hmem'] at hfree
      cases hfree
    refine .of_ok rfl ⟨block, hlen, List.nodup_cons.mpr ⟨hnew, h.nodup⟩, ?_, ?_⟩
    · exact List.not_mem_cons_of_ne_of_not_mem hp.symm h.ne_zero
    · exact update_eq_some_iff hnew fun r _ => h.eq_some_iff r

theorem write_eq (h : Owns heap ((p, block) :: blocks)) (off : ℕ) (bytes : List β)
    (hlen : off + bytes.length ≤ block.length) :
    ∃ heap', write heap p off bytes = .ok heap' ∧
      Owns heap' ((p, overwrite block off bytes) :: blocks) := by
  refine ⟨_, ?_, h.update _⟩
  unfold write
  rw [h.deref_eq, Checked.ok_bind, if_pos hlen]
  rfl

theorem free_eq (h : Owns heap ((p, block) :: blocks)) :
    ∃ heap', free heap p = .ok heap' ∧ Owns heap' blocks := by
  refine ⟨Function.update heap p none, ?_, ?_, ?_, fun r content => ?_⟩
  · unfold free
    rw [h.deref_eq]
    rfl
  · exact (List.nodup_cons.mp h.nodup).2
  · exact fun hmem => h.ne_zero (List.mem_cons_of_mem _ hmem)
  · by_cases hr : r = p
    · subst hr
      rw [Function.update_self]
      exact iff_of_false (Option.some_ne_none _).symm fun hmem =>
        absurd (List.mem_map_of_mem hmem) h.ptr_notMem
    · rw [Function.update_of_ne hr, h.eq_some_iff_of_ne hr]

end Owns

end Mvr.BlockHeap
