import JpegLs.Proofs.Pixels.Orders
import JpegLs.Proofs.Session.EncodeReference

namespace JpegLs

variable {σ : Type}

namespace SourceImage

def scanPlace (image : SourceImage) (options : EncodeOptions) (pixel component : Nat) : Nat :=
  if image.interleave options = .planar ∧ 1 < image.mode.components then
    component * (image.width.toNat * image.height.toNat) + pixel
  else
    pixel * image.mode.components + component

/-- The bytes are all samples of the image, and each stands at its place. -/
structure Handed (image : SourceImage) (options : EncodeOptions) (bytes : List UInt8) : Prop where
  length : bytes.length =
    image.width.toNat * image.height.toNat * image.mode.components *
      if image.depth options ≤ 8 then 1 else 2
  sample : ∀ pixel < image.width.toNat * image.height.toNat,
    ∀ component < image.mode.components, ∃ value,
      image.pixels.values[pixel * image.mode.components + component]? = some value ∧
        let width := SampleWidth.ofBits (image.depth options)
        (bytes.drop (width.bytes * image.scanPlace options pixel component)).take width.bytes =
          width.stored value

variable {width height : UInt32} {mode : PixelMode} {pixels : PixelBuffer} {image : SourceImage}
  {options : EncodeOptions} {metadata : Metadata}

theorem getElem?_values_scanOrder (hlength : image.pixels.length = image.frame.samples)
    (bits : Nat) {pixel component : Nat}
    (hpixel : pixel < image.width.toNat * image.height.toNat)
    (hcomponent : component < image.mode.components) :
    let samples := image.pixels.withBits bits
    (samples.scanOrder image.mode.components (options.interleave.getD .sample)).values[
        image.scanPlace options pixel component]? =
      samples.values[pixel * image.mode.components + component]? := by
  intro samples
  have hscan : samples.toScan image.mode.components (options.interleave.getD .sample) = .ok _ :=
    toScan_withBits hlength bits _
  rw [scanPlace, interleave]
  by_cases hone : image.mode.components = 1
  · rw [if_neg (by omega), hone, PixelBuffer.scanOrder_one]
  · rw [if_neg hone]
    cases hmode : options.interleave.getD .sample with
    | planar =>
        have hcount : samples.length / image.mode.components =
            image.width.toNat * image.height.toNat := by
          rw [PixelBuffer.length_withBits, hlength]
          have hpos : 0 < image.mode.components := by omega
          exact Nat.mul_div_cancel _ hpos
        rw [hmode] at hscan
        rw [if_pos ⟨rfl, by omega⟩, ← hcount]
        exact PixelBuffer.getElem?_values_toScan hscan hcomponent (hcount ▸ hpixel)
    | line => rfl
    | sample => rfl

theorem handed_source (himage : make width height mode pixels = .ok image)
    (hmetadata : Metadata.forEncode image.width image.height image.mode options = .ok metadata) :
    image.Handed options (image.source options metadata) := by
  obtain ⟨-, hlength⟩ := of_make himage
  have hscan := toScan_withBits hlength (image.depth options) (options.interleave.getD .sample)
  have hcount : image.pixels.length =
      image.width.toNat * image.height.toNat * image.mode.components := hlength
  have hwidth := (PixelBuffer.width_toScan hscan).trans (PixelBuffer.width_withBits _ _)
  rw [source, scanBytes, bits_eq hmetadata]
  constructor
  · rw [PixelBuffer.length_toBytes, hwidth, SampleWidth.bytes_ofBits,
      PixelBuffer.length_toScan hscan, PixelBuffer.length_withBits, hcount]
  · intro pixel hpixel component hcomponent
    have hplace : pixel * image.mode.components + component < image.pixels.length := by
      rw [hcount]
      exact block_index_lt hpixel hcomponent
    obtain ⟨value, hvalue⟩ := PixelBuffer.exists_value image.pixels hplace
    obtain ⟨changed, hchanged, hstored⟩ :=
      PixelBuffer.stored_withBits hvalue (image.depth options)
    refine ⟨value, hvalue, ?_⟩
    rw [← getElem?_values_scanOrder hlength _ hpixel hcomponent] at hchanged
    intro width
    have htaken := PixelBuffer.take_toBytes hchanged
    rw [hwidth] at htaken
    exact htaken.trans hstored

end SourceImage

namespace Event

def handed? : Event → Option (List UInt8)
  | answered (.encodeFrom source) _ | failed (.encodeFrom source) _ => some source
  | _ => none

def handed (events : List Event) : List (List UInt8) :=
  events.filterMap handed?

def refusedBefore : Event → Bool
  | notCreated _ => true
  | failed request _ => request.step ≠ .encodeFromBuffer ∧ request.step ≠ .bytesWritten
  | _ => false

theorem handed_append (first second : List Event) :
    handed (first ++ second) = handed first ++ handed second :=
  List.filterMap_append

theorem handed_cons (event : Event) (events : List Event) :
    handed (event :: events) = event.handed?.toList ++ handed events := by
  rw [handed, List.filterMap_cons]
  cases event.handed? with
  | none => rfl
  | some source => rfl

theorem handed_if {wanted : Prop} [Decidable wanted] {event : Event} (h : event.handed? = none) :
    handed (if wanted then [event] else []) = [] := by
  split
  · exact List.filterMap_cons_none h
  · rfl

theorem handed?_failed (request : Request) (response : Response) (status : Status) :
    (failed request status).handed? = (answered request response).handed? := by
  cases request <;> rfl

end Event

variable {width height : UInt32} {mode : PixelMode} {pixels : PixelBuffer} {image : SourceImage}
  {options : EncodeOptions} {metadata : Metadata}

theorem exists_encodeEvents (image : SourceImage) (options : EncodeOptions)
    (metadata : Metadata) (size written : Nat) :
    ∃ asked, encodeEvents image options metadata size written =
        asked ++ [.answered .bytesWritten (.size written)] ∧
      Event.handed asked = [image.source options metadata] ∧
      ∀ response, .answered .bytesWritten response ∉ asked := by
  refine ⟨_, (List.append_assoc _ [_] [_]).symm, ?_, ?_⟩
  · simp only [Event.handed_append]
    rw [Event.handed_if, Event.handed_if]
    · rfl
    · rfl
    · rfl
  · simp

theorem handed_encodeEvents (image : SourceImage) (options : EncodeOptions)
    (metadata : Metadata) (size written : Nat) :
    Event.handed (encodeEvents image options metadata size written) =
      [image.source options metadata] := by
  obtain ⟨asked, hasked, hhanded, -⟩ := exists_encodeEvents image options metadata size written
  rw [hasked, Event.handed_append, hhanded]
  rfl

theorem handed_of_prefix {made : List Event} {request : Request} {response : Response}
    {size written : Nat}
    (hmade : made ++ [.answered request response] <+:
      encodeEvents image options metadata size written)
    (hlate : request.step = .encodeFromBuffer ∨ request.step = .bytesWritten) :
    Event.handed (made ++ [.answered request response]) = [image.source options metadata] := by
  obtain ⟨asked, hasked, hhanded, hlast⟩ :=
    exists_encodeEvents image options metadata size written
  cases request with
  | encodeFrom source =>
      have hprefix := hmade.filterMap Event.handed?
      rw [← Event.handed, ← Event.handed, handed_encodeEvents] at hprefix
      apply hprefix.eq_of_length_le
      simp [Event.handed, Event.handed?]
  | bytesWritten =>
      rw [hasked] at hmade
      rcases List.prefix_concat_iff.mp hmade with hall | hbefore
      · rw [hall, Event.handed_append, hhanded]
        rfl
      · have hmem : .answered .bytesWritten response ∈ asked :=
          hbefore.subset (List.mem_append_right made List.mem_cons_self)
        exact absurd hmem (hlast response)
  | _ => simp [Request.step] at hlate

theorem EncodeTrail.handed {answer : Except Error (List UInt8)} {events : List Event}
    (htrail : EncodeTrail image options answer events)
    (hmetadata : Metadata.forEncode image.width image.height image.mode options = .ok metadata) :
    Event.handed events <+: [image.source options metadata] ∧
      ((∀ event ∈ events, event.refusedBefore = false) →
        Event.handed events = [image.source options metadata]) := by
  have hwhole (size written : Nat) :
      Event.handed ([.created] ++ encodeEvents image options metadata size written ++
        [.released]) = [image.source options metadata] := by
    rw [Event.handed_append, Event.handed_append, handed_encodeEvents]
    rfl
  cases htrail with
  | refused hrefused =>
      rw [hmetadata] at hrefused
      cases hrefused
  | notCreated status hfound =>
      refine ⟨List.nil_prefix, fun haccepted => ?_⟩
      exact absurd (haccepted _ List.mem_cons_self) (by simp [Event.refusedBefore])
  | @failed found status made request hfound hmade =>
      obtain rfl := Except.ok.inj (hfound.symm.trans hmetadata)
      obtain ⟨response, size, written, hmade⟩ := hmade
      have hsame : Event.handed ([.created] ++ made ++ [.failed request status, .released]) =
          Event.handed (made ++ [.answered request response]) := by
        simp only [Event.handed_append, Event.handed_cons,
          Event.handed?_failed request response status]
        rfl
      rw [hsame]
      constructor
      · have hprefix := hmade.filterMap Event.handed?
        rwa [← Event.handed, ← Event.handed, handed_encodeEvents] at hprefix
      · intro haccepted
        apply handed_of_prefix hmade
        have hlate := haccepted (.failed request status) (by simp)
        rw [Event.refusedBefore, decide_eq_false_iff_not] at hlate
        tauto
  | overrun hfound hsize =>
      obtain rfl := Except.ok.inj (hfound.symm.trans hmetadata)
      rw [hwhole]
      exact ⟨List.prefix_refl _, fun _ => rfl⟩
  | done hfound hlength hsize =>
      obtain rfl := Except.ok.inj (hfound.symm.trans hmetadata)
      rw [hwhole]
      exact ⟨List.prefix_refl _, fun _ => rfl⟩

/-- Whatever the codec, an encoding hands it all samples of the image, each at its place, and does so
once unless a call before has been refused. -/
theorem encode_hands (himage : SourceImage.make width height mode pixels = .ok image)
    (hmetadata : Metadata.forEncode image.width image.height image.mode options = .ok metadata)
    (codec : Codec σ) (world : World (Recorded σ)) :
    ∃ added bytes,
      (encode codec.recorded image options world).2.codec.2 = world.codec.2 ++ added ∧
        image.Handed options bytes ∧ Event.handed added <+: [bytes] ∧
        ((∀ event ∈ added, event.refusedBefore = false) → Event.handed added = [bytes]) := by
  obtain ⟨added, hadded, htrail⟩ := encodeReference_leads codec image options world
  rw [← encode_eq himage] at hadded htrail
  obtain ⟨honce, haccepted⟩ := htrail.handed hmetadata
  exact ⟨added, image.source options metadata, hadded,
    SourceImage.handed_source himage hmetadata, honce, haccepted⟩

theorem encode_hands_narrowed :
    let pixels : PixelBuffer := .sixteen [0x1234, 5, 6, 7, 8, 0xFF09]
    let image : SourceImage := ⟨1, 2, .rgb16, pixels⟩
    let options : EncodeOptions := { bits := some 8, interleave := some .planar }
    let run := encode (Loopback.codec {}).recorded image options ⟨({}, []), []⟩
    SourceImage.make 1 2 .rgb16 pixels = .ok image ∧
      Metadata.forEncode 1 2 .rgb16 options =
        .ok ⟨1, 2, 8, 3, .planar, some 10, some 1, some 72⟩ ∧
      (∀ event ∈ run.2.codec.2, event.refusedBefore = false) ∧
      Event.handed run.2.codec.2 = [[0x34, 7, 5, 8, 6, 9]] ∧
      image.Handed options [0x34, 7, 5, 8, 6, 9] := by
  intro pixels image options run
  have himage : SourceImage.make 1 2 .rgb16 pixels = .ok image := rfl
  have hmetadata : Metadata.forEncode 1 2 .rgb16 options =
      .ok ⟨1, 2, 8, 3, .planar, some 10, some 1, some 72⟩ := by decide +kernel
  have haccepted : ∀ event ∈ run.2.codec.2, event.refusedBefore = false := by decide +kernel
  have hrecord : Event.handed run.2.codec.2 = [[0x34, 7, 5, 8, 6, 9]] := by decide +kernel
  obtain ⟨added, bytes, hadded, hhanded, -, honce⟩ :=
    encode_hands himage hmetadata (Loopback.codec {}) ⟨({}, []), []⟩
  obtain rfl : run.2.codec.2 = added := hadded
  obtain rfl : [0x34, 7, 5, 8, 6, 9] = bytes := by
    simpa using hrecord.symm.trans (honce haccepted)
  exact ⟨himage, hmetadata, haccepted, hrecord, hhanded⟩

end JpegLs
