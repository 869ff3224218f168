import Mvr.DecodeWorker.Basic
import Mvr.Ring.Basic
import Mvr.Sequential.Basic

/-!
# Frames through the decoder worker

A message that is decoded to its end leaves no block of the module's memory behind, and no frame in
the ring of the decoder; what is posted for it are the newest 15 pictures since the last such
message.  A message in which a codec fails leaves its buffer, the frame of the picture that was
being encoded, and the pictures before it, which wait in the ring for the next message.  A `Backlog`
is what has been left so far, and `Codec.feed` what a message does to it.

A frame is read back with the length it was stored with (`frameLen_eq`), the ring of the decoder
refines a queue that drives out its oldest element (`Queued.enqueue_eq_ok`,
`Queued.zxGetFrame_cons`), and `Carries.onmessage` puts the parts of a message together.
-/

namespace Mvr

open BlockHeap

/-! ### Frames -/

/-- The JPEG of a picture: its last packet that is not empty. -/
def jpegOf (packets : List Packet) : Option (List UInt8) :=
  ((packets.map Subtype.val).filter fun packet => packet.length > 0).getLast?

/-- A JPEG as the decoder hands it out. -/
def frameOf (jpeg : List UInt8) : List UInt8 := le32 jpeg.length ++ jpeg

theorem length_le32 (n : ℕ) : (le32 n).length = 4 := rfl

theorem jpegOf_append_singleton (packets : List Packet) (packet : Packet) :
    jpegOf (packets ++ [packet]) =
      if packet.val.length > 0 then some packet.val else jpegOf packets := by
  unfold jpegOf
  rw [List.map_append, List.map_singleton, List.filter_append, List.filter_singleton]
  split_ifs with hlen
  · simp [hlen]
  · simp [hlen]

theorem length_lt_of_jpegOf {packets : List Packet} {jpeg : List UInt8}
    (h : jpegOf packets = some jpeg) : jpeg.length < 2 ^ 31 := by
  obtain ⟨packet, -, rfl⟩ := List.mem_map.mp (List.mem_filter.mp (List.mem_of_getLast? h)).1
  exact packet.property

/-- A byte of a size keeps its place. -/
theorem shiftLeft_eq (val : UInt8) (k : ℕ) (h : val.toNat * 2 ^ k < 2 ^ 31) :
    DecodeWorker.shiftLeft val k = val.toNat * 2 ^ k := by
  have hval : val.toNat < 2 ^ 8 := val.toNat_lt
  have hnat : (BitVec.ofNat 32 val.toNat <<< k).toNat = val.toNat * 2 ^ k := by
    rw [BitVec.toNat_shiftLeft, BitVec.toNat_ofNat, Nat.mod_eq_of_lt (a := val.toNat) (by omega),
      Nat.shiftLeft_eq, Nat.mod_eq_of_lt (by omega)]
  unfold DecodeWorker.shiftLeft
  rw [BitVec.toInt_eq_toNat_of_lt (by rw [hnat]; omega), hnat]
  push_cast
  rfl

theorem zxGetMemVal_eq {heap : Heap UInt8} {ptr : Ptr} {block : List UInt8}
    {blocks : List (Ptr × List UInt8)} (h : Owns heap ((ptr, block) :: blocks)) {i : ℕ} {b : UInt8}
    (hb : block[i]? = some b) : DecodeWorker.zxGetMemVal heap ptr i = .ok b := by
  unfold DecodeWorker.zxGetMemVal
  rw [h.deref_eq, Checked.ok_bind, hb]

/-- The bytes of a size, in their places. -/
theorem le32_sum {n : ℕ} (hn : n < 2 ^ 31) :
    ((UInt8.ofNat n).toNat : ℤ) + DecodeWorker.shiftLeft (.ofNat (n / 2 ^ 8)) 8 +
      DecodeWorker.shiftLeft (.ofNat (n / 2 ^ 16)) 16 +
      DecodeWorker.shiftLeft (.ofNat (n / 2 ^ 24)) 24 = n := by
  have hbyte : ∀ m : ℕ, (UInt8.ofNat m).toNat = m % 2 ^ 8 := fun m => UInt8.toNat_ofNat'
  have h₁ := shiftLeft_eq (.ofNat (n / 2 ^ 8)) 8 (by rw [hbyte]; omega)
  have h₂ := shiftLeft_eq (.ofNat (n / 2 ^ 16)) 16 (by rw [hbyte]; omega)
  -- the sign bit is clear
  have h₃ := shiftLeft_eq (.ofNat (n / 2 ^ 24)) 24 (by rw [hbyte]; omega)
  rw [h₁, h₂, h₃, hbyte, hbyte, hbyte, hbyte]
  omega

/-- The length of a frame is the one that was stored. -/
theorem frameLen_eq {heap : Heap UInt8} {frame : Ptr} {jpeg : List UInt8}
    {blocks : List (Ptr × List UInt8)} (h : Owns heap ((frame, frameOf jpeg) :: blocks))
    (hlen : jpeg.length < 2 ^ 31) : DecodeWorker.frameLen heap frame = .ok jpeg.length := by
  unfold DecodeWorker.frameLen
  rw [zxGetMemVal_eq h (i := 0) rfl, zxGetMemVal_eq h (i := 1) rfl, zxGetMemVal_eq h (i := 2) rfl,
    zxGetMemVal_eq h (i := 3) rfl]
  exact congrArg Except.ok (le32_sum hlen)

/-- A frame is copied out as a whole. -/
theorem copyData2_eq {heap : Heap UInt8} {frame : Ptr} {jpeg : List UInt8}
    {blocks : List (Ptr × List UInt8)} (h : Owns heap ((frame, frameOf jpeg) :: blocks)) :
    DecodeWorker.copyData2 heap frame (jpeg.length + 4) = .ok (frameOf jpeg) := by
  have hlen : (frameOf jpeg).length = jpeg.length + 4 := by
    rw [frameOf, List.length_append, length_le32, Nat.add_comm]
  unfold DecodeWorker.copyData2
  rw [h.deref_eq, Checked.ok_bind, if_pos (by rw [hlen]; omega)]
  have htake : ((jpeg.length : ℤ) + 4).toNat = (frameOf jpeg).length := by
    rw [hlen]
    omega
  rw [htake, List.take_length]
  rfl

/-! ### The ring -/

namespace ZxDecoder

variable {codec : Codec} {s : ZxDecoder codec} {heap : Heap UInt8} {al : Allocator UInt8}
  {blocks : List (Ptr × List UInt8)}

/-- What `encode` leaves: the frame of the JPEG if there is one, and no other block. -/
def Encoded (blocks : List (Ptr × List UInt8)) (jpeg : Option (List UInt8))
    (res : Heap UInt8 × Ptr) : Prop :=
  jpeg.elim (res.2 = 0 ∧ Owns res.1 blocks) fun jpeg =>
    Owns res.1 ((res.2, frameOf jpeg) :: blocks)

/-- The frames of the earlier packets are freed. -/
theorem encode_spec (h : Owns heap blocks) (al : Allocator UInt8) (packets : List Packet) :
    Yields (encode al heap packets) (Encoded blocks (jpegOf packets)) := by
  refine Yields.foldlM (fun done => Encoded blocks (jpegOf done)) ⟨rfl, h⟩ ?_
  rintro done packet ⟨heap, frame⟩ hdone
  rw [jpegOf_append_singleton]
  dsimp only
  by_cases hlen : packet.val.length > 0
  · rw [if_pos hlen, if_pos hlen]
    -- the frame of the packet before is given back
    have hfree : ∃ heap', (if frame ≠ 0 then free heap frame else pure heap) = .ok heap' ∧
        Owns heap' blocks := by
      cases hjpeg : jpegOf done with
      | none =>
        rw [hjpeg] at hdone
        obtain ⟨rfl, howns⟩ := hdone
        exact ⟨heap, rfl, howns⟩
      | some jpeg =>
        rw [hjpeg] at hdone
        have howns : Owns heap ((frame, frameOf jpeg) :: blocks) := hdone
        rw [if_pos howns.ptr_ne_zero]
        exact howns.free_eq
    obtain ⟨heap₁, hok, howns⟩ := hfree
    rw [hok, Checked.ok_bind]
    refine (howns.malloc al _).bind ?_
    rintro ⟨frame₂, heap₂⟩ ⟨block, hblock, hnew⟩
    obtain ⟨heap₃, hsize, hnew⟩ := hnew.write_eq 0 (le32 packet.val.length)
      (by rw [length_le32, hblock]; omega)
    obtain ⟨heap₄, hdata, hnew⟩ := hnew.write_eq 4 packet.val (by
      unfold overwrite
      rw [List.length_append, List.length_append, List.length_drop, List.take_zero, length_le32,
        hblock, List.length_nil]
      omega)
    have hframe : overwrite (overwrite block 0 (le32 packet.val.length)) 4 packet.val =
        frameOf packet.val :=
      overwrite_overwrite (by rw [length_le32, hblock, Nat.add_comm])
    rw [hframe] at hnew
    dsimp only
    rw [hsize, Checked.ok_bind, hdata, Checked.ok_bind]
    exact .pure hnew
  · rw [if_neg hlen, if_neg hlen]
    exact .pure hdone

/-- The decoder holds the frames of the JPEGs, beside other blocks. -/
structure Queued (s : ZxDecoder codec) (heap : Heap UInt8) (blocks : List (Ptr × List UInt8))
    (q : List (Ptr × List UInt8)) : Prop where
  holds : Ring.Holds 16 s.frames s.front s.back (q.map Prod.fst)
  owns : Owns heap (q.map (fun f => (f.1, frameOf f.2)) ++ blocks)
  length_lt : ∀ f ∈ q, f.2.length < 2 ^ 31

theorem and_fifteen (n : ℕ) : n &&& 15 = n % 16 := Nat.and_two_pow_sub_one_eq_mod n 4

/-- A new frame comes into the ring as into a queue of 15. -/
theorem Queued.enqueue_eq_ok {q : List (Ptr × List UInt8)} {frame : Ptr} {jpeg : List UInt8}
    (h : Queued s heap ((frame, frameOf jpeg) :: blocks) q) (hlen : jpeg.length < 2 ^ 31) :
    ∃ s' heap', s.enqueue heap frame = .ok (s', heap') ∧ s'.codecs = s.codecs ∧
      Queued s' heap' blocks (Ring.push 16 q (frame, jpeg)) := by
  have hfull := h.holds.next_eq_front_iff
  rw [List.length_map] at hfull
  unfold enqueue Ring.push
  simp only [and_fifteen]
  by_cases hq : q.length + 1 = 16
  · rw [if_pos (hfull.mpr hq), if_pos hq]
    cases q with
    | nil => simp at hq
    | cons f q =>
      have hold : s.frames ((s.front + 1) % 16) = f.1 := h.holds.next_slot
      have hpop := h.holds.pop 0
      obtain ⟨heap', hfree, howns⟩ := h.owns.free_eq
      rw [hold, hfree, Checked.ok_bind]
      refine ⟨_, _, rfl, rfl, ?_, ?_, ?_⟩
      · rw [List.length_cons] at hq
        have hsnoc := hpop.snoc (by rw [List.length_map]; omega) frame
        simpa using hsnoc
      · refine howns.perm ?_
        rw [List.tail_cons, List.map_append, List.append_assoc, List.map_singleton,
          List.singleton_append]
        exact .refl _
      · intro g hg
        rcases List.mem_append.mp hg with hg | hg
        · exact h.length_lt g (List.mem_cons_of_mem _ hg)
        · rw [List.mem_singleton.mp hg]
          exact hlen
  · rw [if_neg fun heq => hq (hfull.mp heq), if_neg hq]
    refine ⟨_, _, rfl, rfl, ?_, ?_, ?_⟩
    · have hroom := h.holds.length_lt
      rw [List.length_map] at hroom
      have hsnoc := h.holds.snoc (by rw [List.length_map]; omega) frame
      simpa using hsnoc
    · rw [List.map_append, List.append_assoc, List.map_singleton, List.singleton_append]
      exact h.owns
    · intro g hg
      rcases List.mem_append.mp hg with hg | hg
      · exact h.length_lt g hg
      · rw [List.mem_singleton.mp hg]
        exact hlen

/-- The frames come out in the order in which they came in. -/
theorem Queued.zxGetFrame_cons {f : Ptr × List UInt8} {q : List (Ptr × List UInt8)}
    (h : Queued s heap blocks (f :: q)) : ∃ s', s.zxGetFrame = (f.1, s') ∧ s'.codecs = s.codecs ∧
      Ring.Holds 16 s'.frames s'.front s'.back (q.map Prod.fst) := by
  have hne : s.back ≠ s.front := fun heq => by
    have hnil := h.holds.back_eq_front_iff.mp heq
    cases hnil
  have hslot : s.frames ((s.front + 1) % 16) = f.1 := h.holds.next_slot
  unfold zxGetFrame
  rw [if_neg hne]
  simp only [and_fifteen, hslot]
  exact ⟨_, rfl, rfl, h.holds.pop 0⟩

theorem Queued.zxGetFrame_nil (h : Queued s heap blocks []) : s.zxGetFrame = (0, s) := by
  unfold zxGetFrame
  rw [if_pos (h.holds.back_eq_front_iff.mpr rfl)]

/-- A picture comes into the ring, and drives out the oldest of 15. -/
theorem Queued.takePicture_spec {q : List (Ptr × List UInt8)} {jpegs : List (List UInt8)}
    (h : Queued s heap blocks q) (hjpegs : q.map Prod.snd = jpegs.rtake 15) (al : Allocator UInt8)
    (packets : List Packet) : Yields (takePicture al (s, heap) packets) fun res =>
      res.1.codecs = s.codecs ∧ ∃ q' : List (Ptr × List UInt8), Queued res.1 res.2 blocks q' ∧
        q'.map Prod.snd = (jpegs ++ (jpegOf packets).toList).rtake 15 := by
  unfold takePicture
  refine (encode_spec h.owns al packets).bind ?_
  rintro ⟨heap', frame⟩ hframe
  cases hjpeg : jpegOf packets with
  | none =>
    rw [hjpeg] at hframe
    obtain ⟨hzero, howns⟩ := hframe
    dsimp only at hzero
    simp only [hzero, if_true]
    refine .pure ⟨rfl, q, ⟨h.holds, howns, h.length_lt⟩, ?_⟩
    rw [Option.toList_none, List.append_nil]
    exact hjpegs
  | some jpeg =>
    rw [hjpeg] at hframe
    have howns : Owns heap' ((frame, frameOf jpeg) :: _) := hframe
    have hqueued : Queued s heap' ((frame, frameOf jpeg) :: blocks) q :=
      ⟨h.holds, howns.perm List.perm_middle.symm, h.length_lt⟩
    obtain ⟨s', heap'', hok, hcodecs, hq⟩ := hqueued.enqueue_eq_ok (length_lt_of_jpegOf hjpeg)
    dsimp only
    rw [if_neg howns.ptr_ne_zero]
    refine .of_ok hok ⟨hcodecs, _, hq, ?_⟩
    rw [Ring.map_push, hjpegs, Option.toList_some]
    exact Ring.push_rtake (by omega) _ _

/-- The pictures of a buffer come into the ring one after the other. -/
theorem Queued.foldlM_takePicture {q : List (Ptr × List UInt8)} {jpegs : List (List UInt8)}
    (h : Queued s heap blocks q) (hjpegs : q.map Prod.snd = jpegs.rtake 15) (al : Allocator UInt8)
    (pictures : List (List Packet)) :
    Yields (pictures.foldlM (takePicture al) (s, heap)) fun res => res.1.codecs = s.codecs ∧
      ∃ q' : List (Ptr × List UInt8), Queued res.1 res.2 blocks q' ∧
        q'.map Prod.snd = (jpegs ++ pictures.filterMap jpegOf).rtake 15 := by
  refine Yields.foldlM (fun (done : List (List Packet)) (res : ZxDecoder codec × Heap UInt8) =>
    res.1.codecs = s.codecs ∧ ∃ q' : List (Ptr × List UInt8), Queued res.1 res.2 blocks q' ∧
      q'.map Prod.snd = (jpegs ++ done.filterMap jpegOf).rtake 15)
    ⟨rfl, q, h, by rw [List.filterMap_nil, List.append_nil, hjpegs]⟩ ?_
  rintro done packets ⟨s₁, heap₁⟩ ⟨hcodecs, q₁, hq₁, hjpegs₁⟩
  refine (hq₁.takePicture_spec hjpegs₁ al packets).mono ?_
  rintro ⟨s₂, heap₂⟩ ⟨hcodecs₂, q₂, hq₂, hjpegs₂⟩
  refine ⟨hcodecs₂.trans hcodecs, q₂, hq₂, ?_⟩
  rw [hjpegs₂, List.filterMap_append, List.append_assoc]
  cases hjpeg : jpegOf packets with
  | none => rw [List.filterMap_cons_none hjpeg, List.filterMap_nil, Option.toList_none]
  | some jpeg => rw [List.filterMap_cons_some hjpeg, List.filterMap_nil, Option.toList_some]

/-- What is lost with the picture that a codec has failed in. -/
def lostFrames (packets : List Packet) : List (List UInt8) := (jpegOf packets).toList.map frameOf

/-- A buffer is decoded as far as the codecs get. -/
theorem Queued.zxDecode_spec {q : List (Ptr × List UInt8)} {jpegs : List (List UInt8)}
    {buffer : Ptr} {h264Buff : List UInt8} (h : Queued s heap ((buffer, h264Buff) :: blocks) q)
    (hjpegs : q.map Prod.snd = jpegs.rtake 15) (al : Allocator UInt8) :
    Yields (s.zxDecode al heap buffer h264Buff.length) fun res =>
      res.1.1.codecs = (codec.decode s.codecs h264Buff).1 ∧
      res.2 = (codec.decode s.codecs h264Buff).2.failed.isSome ∧
      ∃ q' lost : List (Ptr × List UInt8),
        Queued res.1.1 res.1.2 ((buffer, h264Buff) :: (lost ++ blocks)) q' ∧
        q'.map Prod.snd =
          (jpegs ++ (codec.decode s.codecs h264Buff).2.pictures.filterMap jpegOf).rtake 15 ∧
        lost.map Prod.snd =
          (codec.decode s.codecs h264Buff).2.failed.elim [] lostFrames := by
  have hbuffer : deref heap buffer = .ok h264Buff := (h.owns.perm List.perm_middle).deref_eq
  unfold zxDecode
  rw [hbuffer, Checked.ok_bind, List.take_length]
  have hstart : Queued { s with codecs := (codec.decode s.codecs h264Buff).1 } heap
    ((buffer, h264Buff) :: blocks) q := ⟨h.holds, h.owns, h.length_lt⟩
  refine (hstart.foldlM_takePicture hjpegs al _).bind ?_
  rintro ⟨s₁, heap₁⟩ ⟨hcodecs, q₁, hq₁, hjpegs₁⟩
  cases hfailed : (codec.decode s.codecs h264Buff).2.failed with
  | none => exact .pure ⟨hcodecs, rfl, q₁, [], hq₁, hjpegs₁, rfl⟩
  | some packets =>
    refine (encode_spec hq₁.owns al packets).bind ?_
    rintro ⟨heap₂, frame⟩ hframe
    refine .pure ⟨hcodecs, rfl, q₁, ?_⟩
    cases hjpeg : jpegOf packets with
    | none =>
      rw [hjpeg] at hframe
      refine ⟨[], ⟨hq₁.holds, hframe.2, hq₁.length_lt⟩, hjpegs₁, ?_⟩
      rw [Option.elim_some, lostFrames, hjpeg]
      rfl
    | some jpeg =>
      -- nobody has the address of the frame
      rw [hjpeg] at hframe
      have howns : Owns heap₂ ((frame, frameOf jpeg) :: _) := hframe
      refine ⟨[(frame, frameOf jpeg)], ⟨hq₁.holds, howns.perm ?_, hq₁.length_lt⟩, hjpegs₁, ?_⟩
      · exact List.perm_middle.symm.trans ((List.Perm.swap ..).append_left _)
      · rw [Option.elim_some, lostFrames, hjpeg]
        rfl

end ZxDecoder

/-! ### Messages -/

/-- What a decoder is left with: its codecs, the JPEGs since the last message that was decoded to
its end, and the content of the blocks that nobody will free. -/
structure Backlog (codec : Codec) where
  codecs : codec.State
  jpegs : List (List UInt8)
  lost : List (List UInt8)

/-- The newest 15 JPEGs are in frames, and no other block is held but those that are lost. -/
def Backlog.Held {codec : Codec} (b : Backlog codec) (heap : Heap UInt8) : Prop :=
  ∃ blocks, Owns heap blocks ∧
    blocks.map Prod.snd = (b.jpegs.rtake 15).map frameOf ++ b.lost

namespace Codec

/-- A new decoder is left with nothing. -/
def start (codec : Codec) : Backlog codec := ⟨codec.init, [], []⟩

/-- A buffer that is decoded to its end has the newest 15 JPEGs handed out.  A buffer in which a
codec fails is lost, with the frame of the picture that was being encoded. -/
def feed (codec : Codec) (b : Backlog codec) (buff : List UInt8) :
    Backlog codec × List (List UInt8) :=
  let decoded := (codec.decode b.codecs buff).2
  let jpegs := b.jpegs ++ decoded.pictures.filterMap jpegOf
  match decoded.failed with
  | none => (⟨(codec.decode b.codecs buff).1, [], b.lost⟩, jpegs.rtake 15)
  | some packets =>
    (⟨(codec.decode b.codecs buff).1, jpegs,
      buff :: (ZxDecoder.lostFrames packets ++ b.lost)⟩, [])

/-- What the decoder is left with after some buffers. -/
def after (codec : Codec) (buffs : List (List UInt8)) : Backlog codec :=
  (Sequential.spec codec.feed codec.start buffs).1

variable {codec : Codec}

theorem feed_of_none {b : Backlog codec} {buff : List UInt8}
    (h : (codec.decode b.codecs buff).2.failed = none) : codec.feed b buff =
      (⟨(codec.decode b.codecs buff).1, [], b.lost⟩,
        (b.jpegs ++ (codec.decode b.codecs buff).2.pictures.filterMap jpegOf).rtake 15) := by
  unfold feed
  dsimp only
  rw [h]

theorem feed_of_some {b : Backlog codec} {buff : List UInt8} {packets : List Packet}
    (h : (codec.decode b.codecs buff).2.failed = some packets) : codec.feed b buff =
      (⟨(codec.decode b.codecs buff).1,
        b.jpegs ++ (codec.decode b.codecs buff).2.pictures.filterMap jpegOf,
        buff :: (ZxDecoder.lostFrames packets ++ b.lost)⟩, []) := by
  unfold feed
  dsimp only
  rw [h]

end Codec

namespace DecodeWorker

variable {codec : Codec} {s : DecodeWorker codec} {b : Backlog codec}

/-- The message that carries a JPEG. -/
def frameMessage (jpeg : List UInt8) : WorkerMessage := .frame (frameOf jpeg)

/-- The loop posts and frees every frame. -/
theorem postFrames_eq_ok {dbUpdateMutex : ℕ} (hmutex : dbUpdateMutex < 3) {cxt : ZxDecoder codec}
    {heap : Heap UInt8} {blocks q : List (Ptr × List UInt8)} (h : cxt.Queued heap blocks q)
    {fuel : ℕ} (hfuel : q.length < fuel) : ∃ cxt' heap', postFrames dbUpdateMutex fuel cxt heap =
      .ok (cxt', heap', q.map fun f => frameMessage f.2) ∧ cxt'.codecs = cxt.codecs ∧
      cxt'.Queued heap' blocks [] := by
  induction q generalizing cxt heap fuel with
  | nil =>
    cases fuel with
    | zero => exact absurd hfuel (Nat.not_lt_zero _)
    | succ fuel =>
      unfold postFrames
      rw [h.zxGetFrame_nil]
      exact ⟨cxt, heap, rfl, rfl, h⟩
  | cons f q ih =>
    cases fuel with
    | zero => exact absurd hfuel (Nat.not_lt_zero _)
    | succ fuel =>
      obtain ⟨cxt₁, hget, hcodecs, hholds⟩ := h.zxGetFrame_cons
      have howns : Owns heap ((f.1, frameOf f.2) ::
          (q.map (fun f => (f.1, frameOf f.2)) ++ blocks)) := h.owns
      have hlen := frameLen_eq howns (h.length_lt f (List.mem_cons_self ..))
      have hcopy := copyData2_eq howns
      obtain ⟨heap₁, hfree, hrest⟩ := howns.free_eq
      obtain ⟨cxt₂, heap₂, hok, hcodecs₂, hdone⟩ := ih
        ⟨hholds, hrest, fun g hg => h.length_lt g (List.mem_cons_of_mem _ hg)⟩
        (Nat.lt_of_succ_lt_succ hfuel)
      unfold postFrames
      rw [hget]
      dsimp only
      rw [if_neg howns.ptr_ne_zero, hlen, Checked.ok_bind, hcopy, Checked.ok_bind, hfree,
        Checked.ok_bind, hok, Checked.ok_bind, if_pos hmutex]
      exact ⟨cxt₂, heap₂, rfl, hcodecs₂.trans hcodecs, hdone⟩

/-- The decoder, and what it is left with. -/
def CarriesCxt (cxt : ZxDecoder codec) (heap : Heap UInt8) (b : Backlog codec) : Prop :=
  cxt.codecs = b.codecs ∧ ∃ q lost : List (Ptr × List UInt8), cxt.Queued heap lost q ∧
    q.map Prod.snd = b.jpegs.rtake 15 ∧ lost.map Prod.snd = b.lost

/-- The worker between two messages, and what its decoder is left with. -/
structure Carries (s : DecodeWorker codec) (b : Backlog codec) : Prop where
  dbUpdateMutex_eq : s.dbUpdateMutex = 0
  cxt_of_start : s.start = true → s.cxt ≠ none
  cxt_of_timeout : s.timeout = true → s.cxt ≠ none
  cxt_of_timerWasm : s.timerWasm = true → s.cxt = none
  of_none : s.cxt = none → b = codec.start ∧ Owns s.heap []
  of_some : ∀ cxt, s.cxt = some cxt → CarriesCxt cxt s.heap b

namespace Carries

theorem waitWasmLoading (h : Carries s b) (htimer : s.timerWasm = true) (loaded : Bool) :
    Carries (s.waitWasmLoading loaded).1 b := by
  cases loaded with
  | false => exact h
  | true =>
    obtain ⟨rfl, howns⟩ := h.of_none (h.cxt_of_timerWasm htimer)
    refine ⟨h.dbUpdateMutex_eq, fun _ => Option.some_ne_none _, fun _ => Option.some_ne_none _,
      fun hoff => (by cases hoff), fun hnone => (by cases hnone), ?_⟩
    rintro cxt hcxt
    obtain rfl := Option.some.inj hcxt
    exact ⟨rfl, [], [], ⟨Ring.holds_nil _ (Nat.succ_pos _), howns, fun f hf => by cases hf⟩, rfl,
      rfl⟩

theorem timeout (h : Carries s b) (htimeout : s.timeout = true) :
    Carries { s with start := true, timeout := false } b where
  dbUpdateMutex_eq := h.dbUpdateMutex_eq
  cxt_of_start _ := h.cxt_of_timeout htimeout
  cxt_of_timeout hoff := by cases hoff
  cxt_of_timerWasm := h.cxt_of_timerWasm
  of_none := h.of_none
  of_some := h.of_some

/-- After a message. -/
theorem decoded (h : Carries s b) {cxt : ZxDecoder codec} (hcxt : s.cxt = some cxt)
    {cxt' : ZxDecoder codec} {heap : Heap UInt8} {b' : Backlog codec}
    (h' : CarriesCxt cxt' heap b') : Carries { s with cxt := some cxt', heap } b' where
  dbUpdateMutex_eq := h.dbUpdateMutex_eq
  cxt_of_start _ := Option.some_ne_none _
  cxt_of_timeout _ := Option.some_ne_none _
  cxt_of_timerWasm htimer := by
    rw [h.cxt_of_timerWasm htimer] at hcxt
    cases hcxt
  of_none hnone := by cases hnone
  of_some cxt'' hcxt' := by
    obtain rfl := Option.some.inj hcxt'
    exact h'

/-- The frames in the ring and the blocks that are lost are all that is held. -/
theorem held (h : Carries s b) : b.Held s.heap := by
  cases hcxt : s.cxt with
  | none =>
    obtain ⟨rfl, howns⟩ := h.of_none hcxt
    exact ⟨[], howns, rfl⟩
  | some cxt =>
    obtain ⟨-, q, lost, hq, hjpegs, hlost⟩ := h.of_some cxt hcxt
    refine ⟨_, hq.owns, ?_⟩
    rw [List.map_append, List.map_map, hlost, ← hjpegs, List.map_map]
    rfl

/-- A message is decoded, and what it makes of the decoder is what `feed` says. -/
theorem onmessage (h : Carries s b) (hstart : s.start = true) (al : Allocator UInt8)
    (h264Buff : List UInt8) : Yields (s.onmessage al 16 h264Buff) fun res =>
      Carries res.1 (codec.feed b h264Buff).1 ∧
        res.2 = (codec.feed b h264Buff).2.map frameMessage := by
  obtain ⟨cxt, hcxt⟩ := Option.ne_none_iff_exists'.mp (h.cxt_of_start hstart)
  obtain ⟨hcodecs, q, lost, hq, hjpegs, hlost⟩ := h.of_some cxt hcxt
  unfold DecodeWorker.onmessage
  have hstarted : ¬ s.start = false := by
    rw [hstart]
    decide
  rw [if_neg hstarted, hcxt]
  refine (hq.owns.malloc al _).bind ?_
  rintro ⟨buffer, heap₁⟩ ⟨block, hblock, hnew⟩
  obtain ⟨heap₂, hwrite, hbuffer⟩ := hnew.write_eq 0 h264Buff (by omega)
  rw [overwrite_zero hblock.symm] at hbuffer
  dsimp only
  rw [hwrite, Checked.ok_bind]
  have hqueued : cxt.Queued heap₂ ((buffer, h264Buff) :: lost) q :=
    ⟨hq.holds, hbuffer.perm List.perm_middle.symm, hq.length_lt⟩
  refine (hqueued.zxDecode_spec hjpegs al).bind ?_
  rintro ⟨⟨cxt₁, heap₃⟩, exited⟩ ⟨hcodecs₁, hexited, q₁, lost₁, hq₁, hjpegs₁, hlost₁⟩
  rw [hcodecs] at hcodecs₁ hexited hjpegs₁ hlost₁
  dsimp only at hexited ⊢
  cases hfailed : (codec.decode b.codecs h264Buff).2.failed with
  | some packets =>
    -- the buffer is lost, and the frames wait
    rw [hfailed] at hexited hlost₁
    rw [hexited, Option.isSome_some, if_pos rfl, Codec.feed_of_some hfailed]
    refine .pure ⟨h.decoded hcxt ⟨hcodecs₁, q₁, _, hq₁, hjpegs₁, ?_⟩, rfl⟩
    rw [List.map_cons, List.map_append, hlost₁, hlost]
    rfl
  | none =>
    -- the buffer goes, and so do the frames
    rw [hfailed] at hexited hlost₁
    obtain rfl := List.map_eq_nil_iff.mp hlost₁
    rw [hexited, Option.isSome_none, if_neg Bool.false_ne_true, Codec.feed_of_none hfailed]
    obtain ⟨heap₄, hfree, hframes⟩ := (hq₁.owns.perm List.perm_middle).free_eq
    have hlen : q₁.length < 16 := by
      have hlt := hq₁.holds.length_lt
      rwa [List.length_map] at hlt
    have hmutex : s.dbUpdateMutex < 3 := by
      rw [h.dbUpdateMutex_eq]
      omega
    have hq₂ : cxt₁.Queued heap₄ lost q₁ := ⟨hq₁.holds, hframes, hq₁.length_lt⟩
    obtain ⟨cxt₂, heap₅, hpost, hcodecs₂, hdone⟩ := postFrames_eq_ok hmutex hq₂ hlen
    rw [hfree, Checked.ok_bind, hpost]
    refine .of_ok rfl ⟨h.decoded hcxt ⟨hcodecs₂.trans hcodecs₁, [], lost, hdone, rfl, hlost⟩, ?_⟩
    rw [← hjpegs₁, List.map_map]
    rfl

end Carries

/-! ### Runs -/

/-- The buffer of a message that was decoded. -/
def Label.decoded : Label → Option (List UInt8)
  | .message h264Buff _ => some h264Buff
  | _ => none

/-- What was posted for a message. -/
def Label.posted : Label → List WorkerMessage
  | .message _ posted => posted
  | _ => []

/-- Codecs for which every buffer is a picture, but for one that is broken off. -/
def stillCodec : Codec where
  State := Unit
  init := ()
  decode _ buff := ((),
    if buff = [0] then ⟨[], some [⟨[0], by decide⟩]⟩
    else ⟨if h : buff.length < 2 ^ 31 then [[⟨buff, h⟩]] else [], none⟩)

/-- An allocator with three addresses, of which it returns the first that is free. -/
def threeBlocks : Allocator UInt8 where
  find heap n :=
    ([1, 2, 3].find? fun p => heap p = none).map fun p => (p, List.replicate n 0)
  find_spec heap n p block h := by
    obtain ⟨p', hp', heq⟩ := Option.map_eq_some_iff.mp h
    obtain ⟨rfl, rfl⟩ := Prod.mk.inj heq
    have hmem := List.mem_of_find?_eq_some hp'
    have hfree := List.find?_some hp'
    refine ⟨?_, of_decide_eq_true hfree, List.length_replicate ..⟩
    rintro rfl
    simp at hmem

end DecodeWorker

end Mvr
