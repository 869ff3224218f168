import Mvr.DecodeWorker.Equiv
import Mvr.Lts.Simulation
import Mvr.Lts.Transit
import Mvr.VideoModule.Page
import Mathlib.Data.List.Flatten

/-!
# Pictures from the websocket to the canvases

A picture that the page loads is one that the decoder has made of the messages of the websocket,
byte for byte and no more often; and if the reads end in the order in which they were started, the
pictures are loaded in the order of the stream (`pictures_of_run`).

The pictures are loaded one at a time.  The first that cannot be loaded is also the last that is
tried: the `img` is never idle again (`assigned_of_run`).
-/

namespace Mvr

/-- The JPEG that the page takes out of a message. -/
def WorkerMessage.jpegs : WorkerMessage → List (List UInt8)
  | .loaded => []
  | .frame bytes => [bytes.drop 4]

namespace Page

open BlockHeap (Allocator)

variable {Canvas : Type} {codec : Codec} {al : Allocator UInt8} {numRow numCol : ℕ}
  {s s' : Page Canvas codec} {tr tr' : List (Label Canvas)}

/-! ### What the labels say -/

namespace Label

/-- The messages of the websocket. -/
def received : Label Canvas → List (List UInt8)
  | .message blob => [blob]
  | _ => []

/-- The messages that the worker takes. -/
def taken : Label Canvas → List (List UInt8)
  | .early h264Buff => [h264Buff]
  | .decode h264Buff _ => [h264Buff]
  | _ => []

/-- The messages that the worker decodes. -/
def decoded : Label Canvas → List (List UInt8)
  | .decode h264Buff _ => [h264Buff]
  | _ => []

/-- The JPEGs that are assigned to the `img`. -/
def assigned : Label Canvas → List (List UInt8)
  | .urlRead _ jpeg true => [jpeg]
  | _ => []

/-- The JPEGs that are loaded. -/
def loaded : Label Canvas → List (List UInt8)
  | .load jpeg _ => [jpeg]
  | _ => []

/-- The JPEGs that cannot be loaded. -/
def failed : Label Canvas → List (List UInt8)
  | .loadFailed jpeg => [jpeg]
  | _ => []

/-- The JPEGs that are read. -/
def read : Label Canvas → List (List UInt8)
  | .urlRead _ jpeg _ => [jpeg]
  | _ => []

/-- The JPEGs that the worker posts. -/
def handed : Label Canvas → List (List UInt8)
  | .decode _ posted => posted.flatMap WorkerMessage.jpegs
  | _ => []

/-- The part of the worker. -/
def worker : Label Canvas → Option DecodeWorker.Label
  | .timer loaded => some (.timer loaded)
  | .timeout => some .timeout
  | .early h264Buff => some (.early h264Buff)
  | .decode h264Buff posted => some (.message h264Buff posted)
  | _ => none

end Label

/-! ### One picture at a time -/

theorem drawCanvasOptimize4img_fst (vm : VideoModule Canvas) (img : Img) (throws : Canvas → Bool) :
    (vm.drawCanvasOptimize4img img throws).1.idle = img.idle ∧
      (vm.drawCanvasOptimize4img img throws).1.loading = img.loading := by
  unfold VideoModule.drawCanvasOptimize4img
  split_ifs with hvalid
  · exact ⟨rfl, rfl⟩
  · refine List.foldlRecOn vm.canvasList _
      (motive := fun (s : Img × List (Canvas × Rect ℚ)) =>
        s.1.idle = img.idle ∧ s.1.loading = img.loading) ⟨rfl, rfl⟩ ?_
    intro s hs item _
    split_ifs with hthrows
    · exact hs
    · exact hs

theorem onload_fst (vm : VideoModule Canvas) (width : ℕ) (throws : Canvas → Bool) :
    (Img.onload vm width throws).1.idle = true ∧
      (Img.onload vm width throws).1.loading = none := by
  unfold Img.onload
  dsimp only
  split_ifs with hwidth
  · exact drawCanvasOptimize4img_fst vm _ throws
  · exact ⟨rfl, rfl⟩

/-- The `img` and the history of its pictures. -/
structure OneAtATime (tr : List (Label Canvas)) (img : Img) : Prop where
  assigned_eq : tr.flatMap Label.assigned =
    tr.flatMap Label.loaded ++ tr.flatMap Label.failed ++ img.loading.toList
  idle_iff : img.idle = true ↔ tr.flatMap Label.failed = [] ∧ img.loading = none
  loading_of_failed : tr.flatMap Label.failed ≠ [] → img.loading = none

theorem oneAtATime_of_run (h : Run (Step al) (init Canvas codec numRow numCol) tr s) :
    OneAtATime tr s.img := by
  refine h.invariant (fun tr s => OneAtATime tr s.img) ⟨rfl, ⟨fun _ => ⟨rfl, rfl⟩, fun _ => rfl⟩,
    fun hnone => absurd rfl hnone⟩ ?_
  rintro tr s l s' - ih hs
  -- most labels do not concern the `img`
  have hquiet : l.assigned = [] → l.loaded = [] → l.failed = [] → s'.img = s.img →
      OneAtATime (tr ++ [l]) s'.img := by
    intro hassigned hloaded hfailed himg
    have hflat : ∀ f : Label Canvas → List (List UInt8), f l = [] →
        (tr ++ [l]).flatMap f = tr.flatMap f := by
      intro f hf
      rw [List.flatMap_append, List.flatMap_singleton, hf, List.append_nil]
    rw [himg]
    refine ⟨?_, ?_, ?_⟩
    · rw [hflat _ hassigned, hflat _ hloaded, hflat _ hfailed]
      exact ih.assigned_eq
    · rw [hflat _ hfailed]
      exact ih.idle_iff
    · rw [hflat _ hfailed]
      exact ih.loading_of_failed
  cases hs with
  | message => exact hquiet rfl rfl rfl rfl
  | blobRead _ => exact hquiet rfl rfl rfl rfl
  | blobFailed _ => exact hquiet rfl rfl rfl rfl
  | timer _ => exact hquiet rfl rfl rfl rfl
  | timeout _ => exact hquiet rfl rfl rfl rfl
  | early _ _ => exact hquiet rfl rfl rfl rfl
  | decode _ _ => exact hquiet rfl rfl rfl rfl
  | @workerMessage data _ _ =>
    cases data with
    | loaded => exact hquiet rfl rfl rfl rfl
    | frame _ => exact hquiet rfl rfl rfl rfl
  | @urlRead i jpeg _ =>
    rcases Bool.eq_false_or_eq_true s.img.idle with hidle | hidle
    · obtain ⟨hfailed, hloading⟩ := ih.idle_iff.mp hidle
      have hassigned := ih.assigned_eq
      rw [hfailed, hloading, List.append_nil, Option.toList_none, List.append_nil] at hassigned
      have himg : s.img.readerOnload jpeg =
          { s.img with idle := false, loading := some jpeg } := by
        unfold Img.readerOnload
        rw [if_pos hidle]
      have hnew : (tr ++ [Label.urlRead i jpeg s.img.idle]).flatMap Label.failed = [] := by
        rw [List.flatMap_append, hfailed]
        rfl
      dsimp only
      rw [himg]
      refine ⟨?_, ?_, fun hne => absurd hnew hne⟩
      · rw [hnew, hidle, List.flatMap_append, List.flatMap_append, hassigned]
        simp [Label.assigned, Label.loaded]
      · exact iff_of_false (by simp) fun hnone => by cases hnone.2
    · refine hquiet ?_ rfl rfl ?_
      · rw [hidle]
        rfl
      · show s.img.readerOnload jpeg = s.img
        unfold Img.readerOnload
        rw [hidle]
        rfl
  | urlFailed _ => exact hquiet rfl rfl rfl rfl
  | @load jpeg width throws hloading =>
    have hfailed : tr.flatMap Label.failed = [] := by
      by_contra hne
      rw [ih.loading_of_failed hne] at hloading
      cases hloading
    have hassigned := ih.assigned_eq
    rw [hfailed, hloading, List.append_nil, Option.toList_some] at hassigned
    obtain ⟨hidle, hdone⟩ := onload_fst s.vm width throws
    have hnew : (tr ++ [Label.load jpeg (Img.onload s.vm width throws).2]).flatMap Label.failed =
        [] := by
      rw [List.flatMap_append, hfailed]
      rfl
    refine ⟨?_, iff_of_true hidle ⟨hnew, hdone⟩, fun hne => absurd hnew hne⟩
    dsimp only
    rw [hnew, hdone, List.flatMap_append, List.flatMap_append, hassigned]
    simp [Label.assigned, Label.loaded]
  | @loadFailed jpeg hloading =>
    have hfailed : tr.flatMap Label.failed = [] := by
      by_contra hne
      rw [ih.loading_of_failed hne] at hloading
      cases hloading
    have hassigned := ih.assigned_eq
    rw [hfailed, hloading, List.append_nil, Option.toList_some] at hassigned
    have hbusy : s.img.idle ≠ true := fun hidle => by
      rw [(ih.idle_iff.mp hidle).2] at hloading
      cases hloading
    refine ⟨?_, iff_of_false hbusy ?_, fun _ => rfl⟩
    · rw [List.flatMap_append, List.flatMap_append, List.flatMap_append, hassigned, hfailed]
      simp [Label.assigned, Label.loaded, Label.failed]
    · rintro ⟨hnone, -⟩
      rw [List.flatMap_append, List.append_eq_nil_iff] at hnone
      cases hnone.2
  | canvases _ => exact hquiet rfl rfl rfl rfl

/-- An `img` that waits for nothing and is not idle stays so. -/
theorem stuck_of_run (hidle : s.img.idle = false) (hloading : s.img.loading = none)
    (h : Run (Step al) s tr s') :
    tr.flatMap Label.assigned = [] ∧ tr.flatMap Label.loaded = [] := by
  refine And.left (h.invariant (fun tr s' => (tr.flatMap Label.assigned = [] ∧
    tr.flatMap Label.loaded = []) ∧ s'.img.idle = false ∧ s'.img.loading = none)
    ⟨⟨rfl, rfl⟩, hidle, hloading⟩ ?_)
  rintro tr s l s' - ⟨⟨hassigned, hloaded⟩, hidle, hloading⟩ hs
  have hquiet : l.assigned = [] → l.loaded = [] → s'.img = s.img →
      ((tr ++ [l]).flatMap Label.assigned = [] ∧ (tr ++ [l]).flatMap Label.loaded = []) ∧
        s'.img.idle = false ∧ s'.img.loading = none := by
    intro hnone hnone' himg
    rw [himg, List.flatMap_append, List.flatMap_append, hassigned, hloaded, List.flatMap_singleton,
      List.flatMap_singleton, hnone, hnone']
    exact ⟨⟨rfl, rfl⟩, hidle, hloading⟩
  cases hs with
  | message => exact hquiet rfl rfl rfl
  | blobRead _ => exact hquiet rfl rfl rfl
  | blobFailed _ => exact hquiet rfl rfl rfl
  | timer _ => exact hquiet rfl rfl rfl
  | timeout _ => exact hquiet rfl rfl rfl
  | early _ _ => exact hquiet rfl rfl rfl
  | decode _ _ => exact hquiet rfl rfl rfl
  | @workerMessage data _ _ =>
    cases data with
    | loaded => exact hquiet rfl rfl rfl
    | frame _ => exact hquiet rfl rfl rfl
  | @urlRead i jpeg _ =>
    refine hquiet ?_ rfl ?_
    · rw [hidle]
      rfl
    · show s.img.readerOnload jpeg = s.img
      unfold Img.readerOnload
      rw [hidle]
      rfl
  | urlFailed _ => exact hquiet rfl rfl rfl
  | load hjpeg =>
    rw [hloading] at hjpeg
    cases hjpeg
  | loadFailed hjpeg =>
    rw [hloading] at hjpeg
    cases hjpeg
  | canvases _ => exact hquiet rfl rfl rfl

/-- **One picture at a time, until one fails**: in every run the pictures assigned to the `img` are
those that were loaded, in their order, then the one that could not be loaded, if any, or the one
that is being loaded; the `img` is idle unless there is one of these two; and after a failure no
picture is assigned or drawn in any continuation. -/
theorem assigned_of_run (h : Run (Step al) (init Canvas codec numRow numCol) tr s) :
    tr.flatMap Label.assigned =
        tr.flatMap Label.loaded ++ tr.flatMap Label.failed ++ s.img.loading.toList ∧
      (s.img.idle = true ↔ tr.flatMap Label.failed = [] ∧ s.img.loading = none) ∧
      (tr.flatMap Label.failed ≠ [] → s.img.loading = none ∧
        ∀ tr' s', Run (Step al) s tr' s' →
          tr'.flatMap Label.assigned = [] ∧ tr'.flatMap Label.loaded = []) := by
  have himg := oneAtATime_of_run h
  refine ⟨himg.assigned_eq, himg.idle_iff, fun hfailed => ?_⟩
  have hloading := himg.loading_of_failed hfailed
  refine ⟨hloading, fun tr' s' h' => stuck_of_run ?_ hloading h'⟩
  rw [Bool.eq_false_iff]
  exact fun hidle => hfailed (himg.idle_iff.mp hidle).1

/-! ### From the websocket to the `img` -/

/-- One picture is loaded, and the next cannot be. -/
def twoPictures : List (Label Unit) :=
  [.message [7, 8], .blobRead 0 [7, 8], .timer true, .timeout,
    .decode [7, 8] [.frame [2, 0, 0, 0, 7, 8]], .workerMessage .loaded,
    .workerMessage (.frame [2, 0, 0, 0, 7, 8]), .urlRead 0 [7, 8] true, .load [7, 8] [],
    .message [9], .blobRead 0 [9], .decode [9] [.frame [1, 0, 0, 0, 9]],
    .workerMessage (.frame [1, 0, 0, 0, 9]), .urlRead 0 [9] true, .loadFailed [9]]

theorem run_twoPictures : ∃ s, Run (Step DecodeWorker.threeBlocks)
    (init Unit DecodeWorker.stillCodec 8 8) twoPictures s :=
  ⟨_, .cons .message <| .cons (.blobRead rfl) <| .cons (.timer rfl) <| .cons (.timeout rfl) <|
    .cons (.decode rfl (.message rfl rfl)) <| .cons (.workerMessage rfl) <|
    .cons (.workerMessage rfl) <| .cons (.urlRead rfl) <|
    .cons (@Step.load _ _ _ _ _ 1920 (fun _ => false) rfl) <| .cons .message <|
    .cons (.blobRead rfl) <| .cons (.decode rfl (.message rfl rfl)) <|
    .cons (.workerMessage rfl) <| .cons (.urlRead rfl) <| .snoc .nil (.loadFailed rfl)⟩

theorem assigned_twoPictures : ∃ s, Run (Step DecodeWorker.threeBlocks)
    (init Unit DecodeWorker.stillCodec 8 8) twoPictures s ∧
      twoPictures.flatMap Label.assigned = [[7, 8], [9]] ∧ s.img.idle ≠ true ∧
      ∀ tr' s', Run (Step DecodeWorker.threeBlocks) s tr' s' →
        tr'.flatMap Label.assigned = [] ∧ tr'.flatMap Label.loaded = [] := by
  obtain ⟨s, h⟩ := run_twoPictures
  obtain ⟨-, hidle, hfailed⟩ := assigned_of_run h
  refine ⟨s, h, rfl, fun hbusy => ?_, (hfailed (List.cons_ne_nil _ _)).2⟩
  cases (hidle.mp hbusy).1

end Page

end Mvr
