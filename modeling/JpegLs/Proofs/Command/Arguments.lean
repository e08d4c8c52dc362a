import JpegLs.Command.Arguments
import Mathlib.Data.List.Nodup
import Mathlib.Data.List.Perm.Basic

/-!
Requests written out as arguments.  What asks for a request is understood as this request, whatever
the order of its options, and whichever way each of them is spelled.
-/

namespace JpegLs.Command

variable {flags : List Flag} {stop name : String} {given : Given} {α : Type}

theorem foldl_toDigits (n : Nat) :
    (Nat.toDigits 10 n).foldl (fun n c => n * 10 + (c.toNat - 48)) 0 = n := by
  have hvalue : Nat.ofDigitChars 10 (Nat.toDigits 10 n) 0 = n := Nat.ofDigitChars_ten_toDigits
  rw [Nat.ofDigitChars_eq_foldl] at hvalue
  simp only [Nat.mul_comm 10] at hvalue
  exact hvalue

theorem isDigit_of_toDigits {n : Nat} {c : Char} (h : c ∈ Nat.toDigits 10 n) : c.isDigit = true :=
  Nat.isDigit_of_mem_toDigits (by decide) (by decide) h

theorem natural?_repr {limit n : Nat} (h : n < limit) : natural? limit n.repr = some n := by
  have hdigits : ∀ c ∈ Nat.toDigits 10 n, c.isDigit = true := fun c => isDigit_of_toDigits
  have hvalue := foldl_toDigits n
  unfold natural?
  rw [Nat.toList_repr]
  cases htext : Nat.toDigits 10 n with
  | nil => exact absurd htext Nat.toDigits_ne_nil
  | cons first rest =>
      rw [htext] at hdigits hvalue
      have hfirst := hdigits first List.mem_cons_self
      have hplus : first ≠ '+' := by rintro rfl; revert hfirst; decide
      have hminus : first ≠ '-' := by rintro rfl; revert hfirst; decide
      have hall : (first :: rest).all Char.isDigit = true := List.all_eq_true.mpr hdigits
      split
      next negative digits hsign =>
        split at hsign
        next heq => exact absurd (List.cons.inj heq).1 hplus
        next heq => exact absurd (List.cons.inj heq).1 hminus
        next =>
          cases hsign
          simp [hall, hvalue, h]

theorem isValue_repr (n : Nat) : isValue n.repr = true := by
  have hhead : (Nat.toDigits 10 n).head? ≠ some '-' := by
    intro h
    have hdigit := isDigit_of_toDigits (List.mem_of_head? h)
    revert hdigit
    decide
  simp [isValue, hhead]

namespace Given

theorem get?_nil : get? [] name = none :=
  rfl

theorem get?_cons (key value : String) (given : Given) :
    get? ((key, value) :: given) name = if key = name then some value else given.get? name := by
  by_cases hkey : key = name <;> simp [get?, hkey]

theorem get?_append (given other : Given) :
    get? (given ++ other) name = (given.get? name).or (other.get? name) := by
  simp [get?, List.find?_append, Option.map_or]

theorem get?_eq_some_iff (hdistinct : (given.map (·.1)).Nodup) {value : String} :
    given.get? name = some value ↔ (name, value) ∈ given := by
  induction given with
  | nil => simp [get?]
  | cons entry given ih =>
      obtain ⟨key, text⟩ := entry
      rw [List.map_cons, List.nodup_cons] at hdistinct
      rw [get?_cons, List.mem_cons, Prod.mk.injEq]
      split
      next hkey =>
        subst hkey
        have hnot : (key, value) ∉ given := fun h =>
          hdistinct.1 (List.mem_map_of_mem (f := (·.1)) h)
        simp [hnot, eq_comm]
      next hkey => simp [ih hdistinct.2, Ne.symm hkey]

theorem get?_perm {other : Given} (horder : given.Perm other)
    (hdistinct : (other.map (·.1)).Nodup) : given.get? name = other.get? name := by
  have hdistinct' : (given.map (·.1)).Nodup := (horder.map _).nodup_iff.mpr hdistinct
  apply Option.ext
  intro value
  rw [get?_eq_some_iff hdistinct', get?_eq_some_iff hdistinct, horder.mem_iff]

end Given

/-- Arguments that give options their values, each in one argument or in two. -/
inductive Spells (flags : List Flag) : List (Flag × String) → List String → Prop
  | nil : Spells flags [] []
  | joined {flag : Flag} {value argument : String} {options : List (Flag × String)}
      {arguments : List String} (htoken : Token.of flags argument = .given flag value)
      (hrest : Spells flags options arguments) :
      Spells flags ((flag, value) :: options) (argument :: arguments)
  | apart {flag : Flag} {value argument : String} {options : List (Flag × String)}
      {arguments : List String} (htoken : Token.of flags argument = .waiting flag)
      (hvalue : isValue value = true) (hrest : Spells flags options arguments) :
      Spells flags ((flag, value) :: options) (argument :: value :: arguments)

variable {flag : Flag} {value argument : String} {options : List (Flag × String)}
  {arguments : List String}

def named (options : List (Flag × String)) : Given :=
  options.map fun (flag, value) => (flag.long, value)

theorem add?_of_not_mem (hnew : name ∉ given.map (·.1)) :
    given.add? name value = some ((name, value) :: given) := by
  have hnone : given.get? name = none := by
    simp only [Given.get?, Option.map_eq_none_iff, List.find?_eq_none, decide_eq_true_eq]
    rintro entry hentry rfl
    exact hnew (List.mem_map_of_mem hentry)
  simp [Given.add?, hnone]

theorem takeOptions_joined
    (htoken : Token.of flags argument = .given flag value) (hstop : flag.long ≠ stop)
    (hnew : flag.long ∉ given.map (·.1)) :
    takeOptions flags stop given (argument :: arguments) =
      takeOptions flags stop ((flag.long, value) :: given) arguments := by
  rw [takeOptions]
  simp only [htoken, if_neg hstop, add?_of_not_mem hnew, Option.bind_some]

theorem takeOptions_apart
    (htoken : Token.of flags argument = .waiting flag) (hvalue : isValue value = true)
    (hnew : flag.long ∉ given.map (·.1)) :
    takeOptions flags stop given (argument :: value :: arguments) =
      takeOptions flags stop ((flag.long, value) :: given) arguments := by
  rw [takeOptions]
  simp only [htoken, if_pos hvalue, add?_of_not_mem hnew, Option.bind_some]

theorem reverse_named_append :
    (named ((flag, value) :: options)).reverse ++ given =
      (named options).reverse ++ (flag.long, value) :: given := by
  simp [named]

theorem not_mem_of_nodup {before : Given}
    (hdistinct : ((before ++ (name, value) :: given).map (·.1)).Nodup) :
    name ∉ given.map (·.1) := by
  rw [List.map_append, List.map_cons] at hdistinct
  exact (List.nodup_cons.mp hdistinct.of_append_right).1

theorem takeOptions_of_spells
    (hspells : Spells flags options arguments) (hstop : stop ∉ (named options).map (·.1))
    (hdistinct : (((named options).reverse ++ given).map (·.1)).Nodup) :
    takeOptions flags stop given arguments = some ((named options).reverse ++ given, []) := by
  -- What has been given before is any: each option of the row is put in front of it.
  induction hspells generalizing given with
  | nil => rfl
  | @joined flag value argument options arguments htoken hrest ih =>
      rw [reverse_named_append] at hdistinct ⊢
      simp only [named, List.map_cons, List.mem_cons, not_or] at hstop
      rw [takeOptions_joined htoken (Ne.symm hstop.1) (not_mem_of_nodup hdistinct)]
      exact ih hstop.2 hdistinct
  | @apart flag value argument options arguments htoken hvalue hrest ih =>
      rw [reverse_named_append] at hdistinct ⊢
      simp only [named, List.map_cons, List.mem_cons, not_or] at hstop
      rw [takeOptions_apart htoken hvalue (not_mem_of_nodup hdistinct)]
      exact ih hstop.2 hdistinct

theorem required_path {path : String} (hgiven : given.get? name = some path) (hpath : path ≠ "") :
    required given name path? = some path := by
  simp [required, hgiven, path?, hpath]

theorem optional_eq {read : String → Option α} {value? : Option α} {text : α → String}
    (hgiven : given.get? name = value?.map text)
    (hread : ∀ value ∈ value?, read (text value) = some value) :
    optional given name read = some value? := by
  unfold optional
  rw [hgiven]
  cases value? with
  | none => rfl
  | some value => simp [hread value rfl]

theorem defaulted_eq {read : String → Option α} {value default : α} {text : α → String}
    (hgiven : given.get? name = some (text value)) (hread : read (text value) = some value) :
    defaulted given name read default = some value := by
  have hoptional : optional given name read = some (some value) :=
    @optional_eq _ _ _ read (some value) text hgiven fun _ h => by cases h; exact hread
  rw [defaulted, hoptional]
  rfl

namespace OutputFormat

def spelling : OutputFormat → String
  | raw => "raw"
  | image => "image"

@[simp] theorem format?_spelling (format : OutputFormat) :
    format? format.spelling = some format := by
  cases format <;> rfl

end OutputFormat

namespace Request

def command : Request → String
  | .decode .. => "decode"
  | .encode .. => "encode"
  | .info _ => "info"

def known : Request → List Flag
  | .decode .. => decodeFlags
  | .encode .. => encodeFlags
  | .info _ => infoFlags

/-- What the arguments have to say, and what they need not. -/
def values : Request → List (Flag × Option String)
  | .decode input output format =>
      [(⟨"input", some 'i', true⟩, some input), (⟨"output", some 'o', true⟩, some output),
        (⟨"format", some 'f', true⟩, some format.spelling)]
  | .encode input output raw bits interleave spiff =>
      [(⟨"input", some 'i', true⟩, some input), (⟨"output", some 'o', true⟩, some output),
        (⟨"width", some 'w', true⟩, raw.width.map Nat.repr),
        (⟨"height", some 'H', true⟩, raw.height.map Nat.repr),
        (⟨"components", some 'n', true⟩, some raw.components.repr),
        (⟨"bits", none, true⟩, some raw.bits.repr),
        (⟨"bits-per-component", none, true⟩, bits.map fun bits => bits.toNat.repr),
        (⟨"interleave", none, true⟩, interleave.map Interleave.spelling),
        (⟨"no-spiff", none, false⟩, if spiff then none else some "")]
  | .info input => [(⟨"input", some 'i', true⟩, some input)]

/-- No path is empty, and each number fits its type. -/
def Speakable : Request → Prop
  | .decode input output _ => input ≠ "" ∧ output ≠ ""
  | .encode input output raw _ _ _ =>
      input ≠ "" ∧ output ≠ "" ∧ (∀ width ∈ raw.width, width < UInt32.size) ∧
        (∀ height ∈ raw.height, height < UInt32.size) ∧ raw.components < UInt32.size ∧
        raw.bits < UInt32.size
  | .info input => input ≠ ""

end Request

def present (values : List (Flag × Option String)) : List (Flag × String) :=
  values.filterMap fun (flag, value?) => value?.map fun value => (flag, value)

theorem present_cons (flag : Flag) (value? : Option String)
    (values : List (Flag × Option String)) :
    present ((flag, value?) :: values) =
      (value?.map fun value => (flag, value)).toList ++ present values := by
  cases value? <;> rfl

theorem get?_named_present_nil : (named (present [])).get? name = none :=
  rfl

theorem get?_named_present_cons (flag : Flag) (value? : Option String)
    (values : List (Flag × Option String)) :
    (named (present ((flag, value?) :: values))).get? name =
      (if flag.long = name then value? else none).or ((named (present values)).get? name) := by
  rw [present_cons, named, List.map_append, Given.get?_append]
  cases value? with
  | none => simp [named, Given.get?_nil]
  | some value => simp [named, Given.get?_cons, Given.get?_nil]

theorem names_present_sublist (values : List (Flag × Option String)) :
    ((named (present values)).map (·.1)).Sublist (values.map (·.1.long)) := by
  induction values with
  | nil => exact List.Sublist.slnil
  | cons value values ih =>
      obtain ⟨flag, value?⟩ := value
      cases value? with
      | none => exact ih.cons _
      | some text => exact ih.cons_cons _

variable {input output : String} {raw : RawGeometry} {bits : Option UInt8}
  {interleave : Option Interleave} {spiff : Bool} {library? : Option String}

theorem encodeRequest_of_get?
    (hspeakable : (Request.encode input output raw bits interleave spiff).Speakable)
    (hgiven : ∀ name, given.get? name = (named (present ((libraryFlag, library?) ::
      (Request.encode input output raw bits interleave spiff).values))).get? name) :
    encodeRequest given = some (.encode input output raw bits interleave spiff) := by
  obtain ⟨hinput, houtput, hwide, htall, hmany, hdeep⟩ := hspeakable
  simp only [Request.values, get?_named_present_cons, get?_named_present_nil, libraryFlag] at hgiven
  have hwidth : optional given "width" (natural? UInt32.size) = some raw.width :=
    optional_eq (by simp [hgiven]) fun width h => natural?_repr (hwide width h)
  have hheight : optional given "height" (natural? UInt32.size) = some raw.height :=
    optional_eq (by simp [hgiven]) fun height h => natural?_repr (htall height h)
  have hcomponents : defaulted given "components" (natural? UInt32.size) 1 =
      some raw.components :=
    defaulted_eq (by simp [hgiven]) (natural?_repr hmany)
  have hdepth : defaulted given "bits" (natural? UInt32.size) 8 = some raw.bits :=
    defaulted_eq (by simp [hgiven]) (natural?_repr hdeep)
  have hbits : optional given "bits-per-component" (natural? 256) = some (bits.map (·.toNat)) := by
    refine @optional_eq _ given Nat _ _ Nat.repr (by simp [hgiven]; rfl) ?_
    intro value hvalue
    obtain ⟨bits, -, rfl⟩ := Option.map_eq_some_iff.mp hvalue
    exact natural?_repr bits.toNat_lt
  have horder : optional given "interleave" Interleave.ofSpelling? = some interleave :=
    optional_eq (by simp [hgiven]) fun order _ => order.ofSpelling?_spelling
  have hfrom : required given "input" path? = some input :=
    required_path (by simp [hgiven]) hinput
  have hto : required given "output" path? = some output :=
    required_path (by simp [hgiven]) houtput
  have hspiff : (given.get? "no-spiff").isNone = spiff := by
    cases spiff <;> simp [hgiven]
  simp only [encodeRequest, hwidth, hheight, hcomponents, hdepth, hbits, horder, hfrom, hto, hspiff,
    Option.bind_eq_bind, Option.bind_some, Option.map_map]
  cases bits <;> simp

theorem read_of_get? {request : Request} (hspeakable : request.Speakable)
    (hgiven : ∀ name, given.get? name =
      (named (present ((libraryFlag, library?) :: request.values))).get? name) :
    ∃ read, command? request.command = some (request.known, read) ∧
      read given = some request := by
  cases request with
  | decode input output format =>
      refine ⟨decodeRequest, rfl, ?_⟩
      obtain ⟨hinput, houtput⟩ := hspeakable
      simp only [Request.values, get?_named_present_cons, get?_named_present_nil, libraryFlag]
        at hgiven
      have hfrom : required given "input" path? = some input :=
        required_path (by simp [hgiven]) hinput
      have hto : required given "output" path? = some output :=
        required_path (by simp [hgiven]) houtput
      have hformat : defaulted given "format" format? .raw = some format :=
        defaulted_eq (by simp [hgiven]) format.format?_spelling
      simp only [decodeRequest, hfrom, hto, hformat, Option.bind_eq_bind, Option.bind_some]
      rfl
  | encode input output raw bits interleave spiff =>
      exact ⟨encodeRequest, rfl, encodeRequest_of_get? hspeakable hgiven⟩
  | info input =>
      refine ⟨infoRequest, rfl, ?_⟩
      simp only [Request.values, get?_named_present_cons, get?_named_present_nil, libraryFlag]
        at hgiven
      have hfrom : required given "input" path? = some input :=
        required_path (by simp [hgiven]) hspeakable
      simp only [infoRequest, hfrom, Option.bind_eq_bind, Option.bind_some]
      rfl

theorem get?_library (request : Request) :
    (named (present ((libraryFlag, library?) :: request.values))).get? libraryFlag.long =
      library? := by
  cases request <;>
    simp [Request.values, get?_named_present_cons, get?_named_present_nil, libraryFlag]

theorem token_command (request : Request) :
    Token.of topFlags request.command = .word request.command := by
  cases request <;> (simp only [Request.command]; decide +kernel)

/-- What spells the options of a request, in any order, is taken for the request. -/
theorem parse?_of_spells {request : Request} (hspeakable : request.Speakable)
    (hlibrary : ∀ path ∈ library?, path ≠ "")
    (hspells : Spells request.known options arguments)
    (horder : options.Perm (present ((libraryFlag, library?) :: request.values))) :
    Invocation.parse? (request.command :: arguments) = some (.run library? request) := by
  let values := (libraryFlag, library?) :: request.values
  have hvalues : (values.map (·.1.long)).Nodup ∧ "" ∉ values.map (·.1.long) := by
    cases request <;> simp [values, Request.values, libraryFlag]
  -- No name comes twice, so that neither the order of the options nor the reversal shows.
  have hnames := names_present_sublist values
  have hdistinct := hvalues.1.sublist hnames
  have hnamed : (named options).Perm (named (present values)) := horder.map _
  have hreversed := (List.reverse_perm (named options)).trans hnamed
  have hgiven : ∀ name, Given.get? (named options).reverse name =
      (named (present values)).get? name :=
    fun name => Given.get?_perm hreversed hdistinct
  obtain ⟨read, hcommand, hread⟩ := read_of_get? hspeakable hgiven
  have htop : takeOptions topFlags "version" [] (request.command :: arguments) =
      some ([], request.command :: arguments) := by
    rw [takeOptions, token_command]
  have htaken : takeOptions request.known "" [] arguments = some ((named options).reverse, []) := by
    rw [takeOptions_of_spells hspells, List.append_nil]
    · rw [(hnamed.map _).mem_iff]
      exact fun h => hvalues.2 (hnames.subset h)
    · rw [List.append_nil]
      exact (hreversed.map _).nodup_iff.mpr hdistinct
  have hbelow : optional (named options).reverse libraryFlag.long path? = some library? := by
    refine @optional_eq _ _ _ path? library? id ?_ fun path h => if_neg (hlibrary path h)
    rw [hgiven, get?_library, Option.map_id_fun, id]
  simp only [Invocation.parse?, htop, hcommand, htaken, hbelow, hread, Option.bind_eq_bind,
    Option.bind_some]
  cases library? <;> rfl

def encodeLine (input output : String) (width height components depth : Nat)
    (interleave : Option Interleave) (spiff : Bool) : List String :=
  ["encode", "-i", input, "-o", output, "-w", width.repr, "-H", height.repr,
    "-n", components.repr, "--bits", depth.repr] ++
  (match interleave with
    | some order => ["--interleave", order.spelling]
    | none => []) ++
  if spiff then [] else ["--no-spiff"]

def decodeLine (input output : String) : List String :=
  ["decode", "-i", input, "-o", output, "-f", "raw"]

theorem parse?_encodeLine {width height components depth : Nat}
    (hinput : input ≠ "" ∧ isValue input = true) (houtput : output ≠ "" ∧ isValue output = true)
    (hwidth : width < UInt32.size) (hheight : height < UInt32.size)
    (hcomponents : components < UInt32.size) (hdepth : depth < UInt32.size) :
    Invocation.parse? (encodeLine input output width height components depth interleave spiff) =
      some (.run none
        (.encode input output ⟨some width, some height, components, depth⟩ none interleave
          spiff)) := by
  let request : Request :=
    .encode input output ⟨some width, some height, components, depth⟩ none interleave spiff
  have hspeakable : request.Speakable := by
    refine ⟨hinput.1, houtput.1, ?_, ?_, hcomponents, hdepth⟩
    · rintro side ⟨⟩
      exact hwidth
    · rintro side ⟨⟩
      exact hheight
  have hquiet : Spells encodeFlags
      (present [(⟨"no-spiff", none, false⟩, if spiff then none else some "")])
      (if spiff then [] else ["--no-spiff"]) := by
    cases spiff with
    | true => exact .nil
    | false => exact .joined (by decide +kernel) .nil
  have hspells : Spells encodeFlags (present ((libraryFlag, none) :: request.values))
      (encodeLine input output width height components depth interleave spiff).tail := by
    refine .apart (by decide +kernel) hinput.2 (.apart (by decide +kernel) houtput.2
      (.apart (by decide +kernel) (isValue_repr _) (.apart (by decide +kernel) (isValue_repr _)
      (.apart (by decide +kernel) (isValue_repr _) (.apart (by decide +kernel) (isValue_repr _)
      ?_)))))
    cases interleave with
    | none => exact hquiet
    | some order => exact .apart (by decide +kernel) (by cases order <;> decide +kernel) hquiet
  exact parse?_of_spells hspeakable (by simp) hspells (.refl _)

theorem parse?_decodeLine (hinput : input ≠ "" ∧ isValue input = true)
    (houtput : output ≠ "" ∧ isValue output = true) :
    Invocation.parse? (decodeLine input output) = some (.run none (.decode input output .raw)) := by
  let request : Request := .decode input output .raw
  have hspells : Spells decodeFlags (present ((libraryFlag, none) :: request.values))
      (decodeLine input output).tail :=
    .apart (by decide +kernel) hinput.2 (.apart (by decide +kernel) houtput.2
      (.apart (by decide +kernel) (by decide +kernel) .nil))
  have hspeakable : request.Speakable := ⟨hinput.1, houtput.1⟩
  exact parse?_of_spells hspeakable (by simp) hspells (.refl _)

end JpegLs.Command
