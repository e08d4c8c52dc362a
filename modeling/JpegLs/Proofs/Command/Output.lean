import JpegLs.Codec.Loopback
import JpegLs.Command.Run
import JpegLs.Native.Export
import JpegLs.Pnm.Library
import JpegLs.Proofs.Command.FileStore
import JpegLs.Proofs.Session.Basic
import JpegLs.Proofs.Text.Split

/-!
The output of a command that fails.  A route that writes behind everything else leaves the files
alone; the one from an image file has made the output by the time the picture is encoded.
-/

namespace JpegLs.Command

open Host (HostTask ImageError ImageLibrary)

variable {σ α β γ : Type}

namespace Action

theorem bind_eq_error {act : Action σ α} {next : α → Action σ β} {console left : Console σ}
    {fault : Fault} (hfailed : (act >>= next) console = (.error fault, left)) :
    act console = (.error fault, left) ∨
      ∃ value between, act console = (.ok value, between) ∧
        next value between = (.error fault, left) := by
  rw [run_bind] at hfailed
  rcases hrun : act console with ⟨failure | value, between⟩
  · rw [hrun] at hfailed
    cases hfailed
    exact .inl rfl
  · rw [hrun] at hfailed
    exact .inr ⟨value, between, rfl, hfailed⟩

theorem readFile_of_read {path : String} {bytes : List UInt8} {console : Console σ}
    (hread : console.files.read path = .ok bytes) :
    (readFile path : Action σ _) console = (.ok bytes, console) := by
  simp only [readFile, fromFiles, hread]
  rfl

theorem ofStream_apply (result : Except Error α) (console : Console σ) :
    (ofStream result : Action σ α) console = (result.mapError .stream, console) := by
  cases result <;> rfl

theorem writeFile_eq_ok {path : String} {bytes : List UInt8} {console left : Console σ}
    (hwritten : writeFile path bytes console = (.ok (), left)) :
    ∃ files, console.files.write path bytes = .ok files ∧ left = { console with files } := by
  unfold writeFile at hwritten
  cases hwrite : console.files.write path bytes with
  | ok files =>
      rw [hwrite] at hwritten
      cases hwritten
      exact ⟨files, rfl, rfl⟩
  | error fault =>
      rw [hwrite] at hwritten
      cases hwritten

/-- What the view shows of a console is the same behind the action. -/
def Fixes (view : Console σ → γ) (act : Action σ α) : Prop :=
  ∀ console, view (act console).2 = view console

variable {view : Console σ → γ}

theorem fixes_throw (fault : Fault) : Fixes view (throw fault : Action σ α) := by
  intro console
  rfl

theorem fixes_fromFiles (look : FileStore → Except OsFault α) :
    Fixes view (fromFiles look : Action σ α) := by
  intro console
  rfl

theorem fixes_ofStream (result : Except Error α) : Fixes view (ofStream result : Action σ α) := by
  intro console
  cases result <;> rfl

theorem fixes_ofImage (result : Except ImageError α) :
    Fixes view (ofImage result : Action σ α) := by
  intro console
  cases result <;> rfl

theorem files_runTask (task : Task σ α) : Fixes Console.files (runTask task) := by
  intro console
  rfl

theorem files_runHost (task : HostTask σ α) : Fixes Console.files (runHost task) := by
  intro console
  rfl

theorem Fixes.bind {act : Action σ α} {next : α → Action σ β} (hact : Fixes view act)
    (hnext : ∀ value, Fixes view (next value)) : Fixes view (act >>= next) := by
  intro console
  have hfixed := hact console
  rw [run_bind]
  rcases hrun : act console with ⟨fault | value, left⟩
  · rw [hrun] at hfixed
    exact hfixed
  · rw [hrun] at hfixed
    exact (hnext value left).trans hfixed

def Succeeds (act : Action σ α) : Prop :=
  ∀ console, ∃ value left, act console = (.ok value, left)

theorem succeeds_pure (value : α) : Succeeds (pure value : Action σ α) :=
  fun console => ⟨value, console, rfl⟩

theorem succeeds_say (line : String) : Succeeds (say line : Action σ Unit) :=
  fun _ => ⟨_, _, rfl⟩

theorem Succeeds.bind {act : Action σ α} {next : α → Action σ β} (hact : Succeeds act)
    (hnext : ∀ value, Succeeds (next value)) : Succeeds (act >>= next) := by
  intro console
  obtain ⟨value, between, hfirst⟩ := hact console
  obtain ⟨result, left, hsecond⟩ := hnext value between
  refine ⟨result, left, ?_⟩
  rw [run_bind, hfirst]
  exact hsecond

theorem Succeeds.bind_ofStream {result : Except Error α} {value : α} (hresult : result = .ok value)
    {next : α → Action σ β} (hnext : Succeeds (next value)) :
    Succeeds (ofStream result >>= next) := by
  subst hresult
  exact hnext

theorem succeeds_forM_say (lines : List String) :
    Succeeds (lines.forM say : Action σ Unit) := by
  induction lines with
  | nil => exact succeeds_pure _
  | cons line rest ih => exact (succeeds_say line).bind fun _ => ih

/-- An action that fails has changed no file. -/
def Keeps (act : Action σ α) : Prop :=
  ∀ console fault left, act console = (.error fault, left) → left.files = console.files

theorem Fixes.keeps {act : Action σ α} (hact : Fixes Console.files act) : Keeps act := by
  intro console fault left hfailed
  rw [← hact console, hfailed]

theorem keeps_writeFile (path : String) (bytes : List UInt8) :
    Keeps (writeFile path bytes : Action σ Unit) := by
  intro console fault left hfailed
  unfold writeFile at hfailed
  cases hwrite : console.files.write path bytes with
  | ok files =>
      rw [hwrite] at hfailed
      cases hfailed
  | error fault =>
      rw [hwrite] at hfailed
      cases hfailed
      rfl

theorem Fixes.bind_keeps {act : Action σ α} {next : α → Action σ β}
    (hact : Fixes Console.files act) (hnext : ∀ value, Keeps (next value)) :
    Keeps (act >>= next) := by
  intro console fault left hfailed
  rcases bind_eq_error hfailed with hfirst | ⟨value, between, hfirst, hsecond⟩
  · exact hact.keeps console fault left hfirst
  · have hfixed := hact console
    rw [hfirst] at hfixed
    exact (hnext value between fault left hsecond).trans hfixed

theorem error_of_bind_ok {act : Action σ α} {next : α → Action σ β} {console left : Console σ}
    {fault : Fault}
    (hnext : ∀ value, Succeeds (next value))
    (hfailed : (act >>= next) console = (.error fault, left)) :
    act console = (.error fault, left) := by
  rcases bind_eq_error hfailed with hfirst | ⟨value, between, -, hsecond⟩
  · exact hfirst
  · obtain ⟨result, behind, hnever⟩ := hnext value between
    have hboth := hnever.symm.trans hsecond
    cases hboth

theorem Keeps.bind_ok {act : Action σ α} {next : α → Action σ β} (hact : Keeps act)
    (hnext : ∀ value, Succeeds (next value)) : Keeps (act >>= next) := by
  intro console fault left hfailed
  exact hact console fault left (error_of_bind_ok hnext hfailed)

theorem keeps_withLibrary {loader : Loader σ} {config : LibraryConfig}
    {use : NativeLibrary σ → Action σ α} (huse : ∀ library, Keeps (use library)) :
    Keeps (withLibrary loader config use) := by
  unfold withLibrary
  cases NativeLibrary.load loader config with
  | ok library => exact huse library
  | error error => exact (fixes_throw _).keeps

end Action

open JpegLs.Command.Action

variable {loader : Loader σ} {images : ImageLibrary} {config : LibraryConfig} {codec : Codec σ}
  {input output : String} {raw : RawGeometry} {options : EncodeOptions} {console : Console σ}

theorem keeps_decodeRaw (codec : Codec σ) (data : List UInt8) (output : String) :
    Keeps (decodeRaw codec data output) := by
  apply (files_runTask _).bind_keeps
  intro decoded
  apply (keeps_writeFile _ _).bind_ok
  intro written console
  exact ⟨_, _, rfl⟩

theorem fixes_readRaw (view : Console σ → γ) (input : String) (raw : RawGeometry) :
    Fixes view (readRaw input raw) := by
  unfold readRaw
  split
  · apply (fixes_ofStream _).bind
    intro mode
    apply (fixes_fromFiles _).bind
    intro bytes
    exact fixes_ofStream _
  · exact fixes_throw _

theorem keeps_encodeRaw (codec : Codec σ) (input output : String) (raw : RawGeometry)
    (options : EncodeOptions) : Keeps (encodeRaw codec input output raw options) := by
  apply (fixes_readRaw _ _ _).bind_keeps
  intro image
  apply (files_runTask _).bind_keeps
  intro encoded
  apply (keeps_writeFile _ _).bind_ok
  intro written console
  exact ⟨_, _, rfl⟩

theorem keeps_decodeFile (loader : Loader σ) (images : ImageLibrary) (config : LibraryConfig)
    (input output : String) :
    Keeps (decodeFile loader images config input output .raw) := by
  apply (fixes_fromFiles _).bind_keeps
  intro data
  apply Keeps.bind_ok
  · exact keeps_withLibrary fun library => keeps_decodeRaw library.codec data output
  · intro told console
    exact ⟨_, _, rfl⟩

theorem fixes_openImage (view : Console σ → γ) (images : ImageLibrary) (input : String) :
    Fixes view (openImage images input) := by
  apply (fixes_fromFiles _).bind
  intro place
  apply (fixes_ofImage _).bind
  intro format
  apply (fixes_fromFiles _).bind
  intro data
  exact fixes_ofImage _

theorem openImage_apply (images : ImageLibrary) (input : String) (console : Console σ) :
    openImage images input console = ((openImage images input console).1, console) :=
  congrArg (Prod.mk _) (fixes_openImage id images input console)

/-- The picture can be opened and the output made, but the picture cannot be saved. -/
def Unsaved (images : ImageLibrary) (codec : Codec σ) (input output : String)
    (options : EncodeOptions) (console : Console σ) (emptied : FileStore) (error : ImageError) : Prop :=
  ∃ picture, (openImage images input console).1 = .ok picture ∧
    console.files.write output [] = .ok emptied ∧
    (Host.save codec options picture console.world).1 = .error error

theorem encodeImage_of_unsaved {emptied : FileStore} {error : ImageError}
    (h : Unsaved images codec input output options console emptied error) :
    ∃ world, encodeImage images codec input output options console =
      (.error (.image error), { console with files := emptied, world }) := by
  obtain ⟨picture, hopened, hwrite, hsave⟩ := h
  rcases hrun : Host.save codec options picture console.world with ⟨failure | encoded, world⟩
  · rw [hrun] at hsave
    cases hsave
    refine ⟨world, ?_⟩
    rw [encodeImage, run_bind, openImage_apply, hopened]
    simp only [run_bind, writeFile, hwrite, runHost, hrun]
    rfl
  · rw [hrun] at hsave
    cases hsave

/-- Nothing but a picture that cannot be saved leaves another file behind than before: what could
be written once can be written again. -/
theorem files_of_encodeImage {fault : Fault} {left : Console σ}
    (hfailed : encodeImage images codec input output options console = (.error fault, left))
    (hsaved : ¬∃ emptied error, Unsaved images codec input output options console emptied error) :
    left.files = console.files := by
  rcases bind_eq_error hfailed with hopen | ⟨picture, opened, hopen, hmake⟩
  · exact (fixes_openImage _ images input).keeps console fault left hopen
  have hpicture : (openImage images input console).1 = .ok picture := congrArg Prod.fst hopen
  obtain rfl : opened = console :=
    (congrArg Prod.snd hopen).symm.trans (fixes_openImage id images input console)
  rcases bind_eq_error hmake with hmake | ⟨made, between, hmake, hsave⟩
  · exact keeps_writeFile output [] opened fault left hmake
  obtain ⟨emptied, hwrite, rfl⟩ := writeFile_eq_ok hmake
  rcases bind_eq_error hsave with hsave | ⟨encoded, saved, hsave, hlast⟩
  · have hrefused : (Host.save codec options picture opened.world).1.mapError Fault.image =
        .error fault := congrArg Prod.fst hsave
    cases hresult : (Host.save codec options picture opened.world).1 with
    | error error => exact absurd ⟨emptied, error, picture, hpicture, hwrite, hresult⟩ hsaved
    | ok encoded =>
        rw [hresult] at hrefused
        cases hrefused
  · have hfiles := files_runHost (Host.save codec options picture)
      { opened with files := emptied }
    rw [hsave] at hfiles
    obtain ⟨last, hagain⟩ := FileStore.write_again hwrite encoded
    have hagain' : saved.files.write output encoded = .ok last := by rw [hfiles, hagain]
    have hnever := error_of_bind_ok (fun written console => ⟨_, _, rfl⟩) hlast
    rw [writeFile, hagain'] at hnever
    cases hnever

namespace Request

def Stores (output : String) : Request → Prop
  | .decode _ path format => path = output ∧ format = .raw
  | .encode _ path .. => path = output
  | .info _ => False

/-- The input is an image file that leaves an empty output behind. -/
def Unsaved (loader : Loader σ) (images : ImageLibrary) (config : LibraryConfig)
    (console : Console σ) (emptied : FileStore) (error : ImageError) : Request → Prop
  | .encode input output _ bits interleave spiff =>
      isRaw input = false ∧ ∃ library, NativeLibrary.load loader config = .ok library ∧
        Command.Unsaved images library.codec input output { bits, interleave, spiff } console
          emptied error
  | .decode .. | .info _ => False

variable {request : Request}

theorem act_of_unsaved {emptied : FileStore} {error : ImageError}
    (h : request.Unsaved loader images config console emptied error) :
    ∃ world, request.act loader images config console =
      (.error (.image error), { console with files := emptied, world }) := by
  cases request with
  | decode input output format => exact h.elim
  | info input => exact h.elim
  | encode input output raw bits interleave spiff =>
      obtain ⟨hraw, library, hload, hunsaved⟩ := h
      obtain ⟨world, hfailed⟩ := encodeImage_of_unsaved hunsaved
      refine ⟨world, ?_⟩
      simp only [act, encodeFile, withLibrary, hload, hraw, run_bind]
      simp [hfailed]

theorem read_of_unsaved {emptied : FileStore} {error : ImageError}
    (hstores : request.Stores output)
    (h : request.Unsaved loader images config console emptied error) :
    emptied.read output = .ok [] := by
  cases request with
  | decode input output format => exact h.elim
  | info input => exact h.elim
  | encode input path raw bits interleave spiff =>
      obtain rfl : path = output := hstores
      obtain ⟨-, library, -, picture, -, hwrite, -⟩ := h
      exact FileStore.read_of_write hwrite

theorem files_of_act (hstores : request.Stores output) {fault : Fault} {left : Console σ}
    (hfailed : request.act loader images config console = (.error fault, left))
    (hsaved : ¬∃ emptied error, request.Unsaved loader images config console emptied error) :
    left.files = console.files := by
  cases request with
  | info input => exact hstores.elim
  | decode input path format =>
      obtain ⟨-, rfl⟩ := hstores
      exact keeps_decodeFile loader images config input path console fault left hfailed
  | encode input path raw bits interleave spiff =>
      have hroute := error_of_bind_ok (fun told console => ⟨_, _, rfl⟩) hfailed
      cases hload : NativeLibrary.load loader config with
      | error error =>
          simp only [withLibrary, hload] at hroute
          cases hroute
          rfl
      | ok library =>
          simp only [withLibrary, hload] at hroute
          cases hraw : isRaw input with
          | true =>
              rw [if_pos hraw] at hroute
              exact keeps_encodeRaw _ _ _ _ _ console fault left hroute
          | false =>
              rw [if_neg (by simp [hraw])] at hroute
              apply files_of_encodeImage hroute
              rintro ⟨emptied, error, hunsaved⟩
              exact hsaved ⟨emptied, error, hraw, library, hload, hunsaved⟩

end Request

variable {library? path? : Option String} {arguments : List String} {request : Request}

theorem run_of_parse (hparse : Invocation.parse? arguments = some (.run path? request))
    (console : Console σ) :
    run loader images library? arguments console =
      match request.act loader images ⟨path? <|> library?⟩ console with
      | (.ok (), console) =>
          ({ exit := 0, output := console.output, error := "" }, console)
      | (.error fault, console) =>
          ({ exit := 1, output := console.output, error := s!"Error: {fault.message}\n" },
            console) := by
  rw [run, hparse]
  cases path? <;> rfl

theorem run_of_ok (hparse : Invocation.parse? arguments = some (.run path? request))
    {left : Console σ}
    (hact : request.act loader images ⟨path? <|> library?⟩ console = (.ok (), left)) :
    run loader images library? arguments console =
      ({ exit := 0, output := left.output, error := "" }, left) := by
  rw [run_of_parse hparse, hact]

theorem run_of_unsaved (hparse : Invocation.parse? arguments = some (.run path? request))
    {emptied : FileStore} {error : ImageError}
    (h : request.Unsaved loader images ⟨path? <|> library?⟩ console emptied error) :
    ∃ world, run loader images library? arguments console =
      ({ exit := 1, output := console.output, error := s!"Error: {error.message}\n" },
        { console with files := emptied, world }) := by
  obtain ⟨world, hact⟩ := Request.act_of_unsaved h
  refine ⟨world, ?_⟩
  rw [run_of_parse hparse, hact]
  rfl

/-- A command that fails leaves all files as they were, the output among them, unless it has opened
a picture that it could not save; then the output has been made, and is empty. -/
theorem files_of_exit_one (hparse : Invocation.parse? arguments = some (.run path? request))
    (hstores : request.Stores output)
    (hexit : (run loader images library? arguments console).1.exit = 1) :
    let config : LibraryConfig := ⟨path? <|> library?⟩
    let answer := run loader images library? arguments console
    ((¬∃ emptied error, request.Unsaved loader images config console emptied error) →
      answer.2.files = console.files) ∧
    ∀ emptied error, request.Unsaved loader images config console emptied error →
      answer.1.error = s!"Error: {error.message}\n" ∧ answer.2.files = emptied ∧
        emptied.read output = .ok [] := by
  intro config answer
  constructor
  · intro hsaved
    have hanswer : answer = _ := run_of_parse hparse console
    rcases hact : request.act loader images config console with ⟨fault | told, left⟩
    · rw [hanswer, hact]
      exact Request.files_of_act hstores hact hsaved
    · rw [run_of_parse hparse, hact] at hexit
      have hzero : (0 : UInt32) = 1 := hexit
      exact absurd hzero (by decide)
  · intro emptied error hunsaved
    obtain ⟨world, hrun⟩ := run_of_unsaved hparse hunsaved
    rw [show answer = _ from hrun]
    exact ⟨rfl, rfl, Request.read_of_unsaved hstores hunsaved⟩

theorem files_of_exit_one_no_library :
    let loader : Loader Unit := fun _ => .error .notFound
    let console : Console Unit := ⟨⟨[(["o.jls"], [1, 2])], []⟩, ⟨(), []⟩, ""⟩
    let answer := run loader Pnm.library none ["encode", "-i", "a.pgm", "-o", "o.jls"] console
    answer.1.exit = 1 ∧ answer.2.files = console.files := by
  intro loader console answer
  have hparse : Invocation.parse? ["encode", "-i", "a.pgm", "-o", "o.jls"] =
      some (.run none (.encode "a.pgm" "o.jls" ⟨none, none, 1, 8⟩ none none true)) := by
    decide +kernel
  have hexit : answer.1.exit = 1 := by
    simp only [answer, run_of_parse hparse]
    rfl
  refine ⟨hexit, (files_of_exit_one hparse rfl hexit).1 ?_⟩
  rintro ⟨emptied, error, -, library, hload, -⟩
  cases hload

/-- A picture of eight bits that is to be saved with seventeen: what was stored under the name of
the output is lost. -/
theorem encode_empties_output :
    let loader : Loader Loopback.Record := fun _ =>
      .ok (NativeLibrary.ofCodec (Loopback.codec {}))
    let picture : List UInt8 := [0x50, 0x35, 10, 0x31, 0x20, 0x31, 10, 0x32, 0x35, 0x35, 10, 7]
    let files : FileStore := { files := [(["a.pgm"], picture), (["o.jls"], [1, 2])] }
    let arguments := ["--charls-library", "./stub.so", "encode", "-i", "a.pgm", "-o", "o.jls",
      "--bits-per-component", "17"]
    let answer := run loader Pnm.library none arguments ⟨files, ⟨{}, []⟩, ""⟩
    answer.1.exit = 1 ∧
      answer.1.error = "Error: The decoder for `JPEG-LS` does not support the format features " ++
        "Mode not supported (number of components: 1, bits per sample: 17)\n" ∧
      files.read "o.jls" = .ok [1, 2] ∧ answer.2.files.read "o.jls" = .ok [] := by
  intro loader picture files arguments answer
  let request : Request := .encode "a.pgm" "o.jls" ⟨none, none, 1, 8⟩ (some 17) none true
  let console : Console Loopback.Record := ⟨files, ⟨{}, []⟩, ""⟩
  let emptied : FileStore := files.insert ["o.jls"] []
  let error : ImageError := .ofWriting (.unsupportedMode 1 17)
  have hparse : Invocation.parse? arguments = some (.run (some "./stub.so") request) := by
    decide +kernel
  have hinput : "a.pgm".splitOn "/" = ["a.pgm"] :=
    (splitOn_singleton _ '/').trans (by decide +kernel)
  have houtput : "o.jls".splitOn "/" = ["o.jls"] :=
    (splitOn_singleton _ '/').trans (by decide +kernel)
  have hparts : "a.pgm".splitOn "." = ["a", "pgm"] :=
    (splitOn_singleton _ '.').trans (by decide +kernel)
  have hextension : extension? "a.pgm" = some "pgm" := by
    simp [extension?, fileName?, hinput, hparts]
  have hraw : isRaw "a.pgm" = false := by
    rw [isRaw, hextension]
    decide +kernel
  have hopened : (openImage Pnm.library "a.pgm" console).1 = .ok ⟨1, 1, .samples .l .eight, [7]⟩ := by
    simp only [openImage, readFile, FileStore.read, FileStore.openPlace, FileStore.place,
      FileStore.start, hinput, hextension]
    decide +kernel
  have hwrite : files.write "o.jls" [] = .ok emptied := by
    simp only [FileStore.write, FileStore.place, FileStore.start, houtput]
    decide +kernel
  have hread : files.read "o.jls" = .ok [1, 2] := by
    simp only [FileStore.read, FileStore.openPlace, FileStore.place, FileStore.start, houtput]
    decide +kernel
  have hsave : (Host.save (NativeLibrary.ofCodec (Loopback.codec {})).codec
      { bits := some 17 } ⟨1, 1, .samples .l .eight, [7]⟩ console.world).1 = .error error := by
    decide +kernel
  have hunsaved : request.Unsaved loader Pnm.library ⟨some "./stub.so"⟩ console emptied error :=
    ⟨hraw, _, rfl, _, hopened, hwrite, hsave⟩
  have hmessage : s!"Error: {error.message}\n" =
      "Error: The decoder for `JPEG-LS` does not support the format features " ++
        "Mode not supported (number of components: 1, bits per sample: 17)\n" := by
    decide +kernel
  obtain ⟨world, hrun⟩ := @run_of_unsaved _ loader Pnm.library console none _ _ _ hparse _ _ hunsaved
  rw [show answer = _ from hrun]
  exact ⟨rfl, hmessage, hread, FileStore.read_of_write hwrite⟩

end JpegLs.Command
