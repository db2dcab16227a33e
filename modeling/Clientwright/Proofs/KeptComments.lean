import Clientwright.Proofs.DistinctFiles
import Clientwright.Proofs.EnumRuns
import Clientwright.Proofs.FileComments

/-!
# What comments quote

The texts of a definition get into comments in two ways. Documentation is cut into
lines, and each of them gets a marker. Everything else is put behind one marker as it is:
the name of the service and its version, the names of operations, the codes of errors,
the values of enumerations, and what is known of a waiter. `quotations` lists these texts
for a crate.

So there is nothing in general that keeps a comment together, and what is true is a
condition on the list: the comments of all files end where they should if and only if no
text of the list begins a line without a marker (`contained_iff_of_generate`). Texts are
neither checked nor changed on the way, and so the condition is not met by every
definition. One value with a line feed is enough to get a line of its own choice into a
file.
-/

namespace Clientwright

open Outcome Comment

namespace Crate

/-- The values of an enumerated text. -/
def enumTexts (s : Service) (n : String) : List String :=
  match s.shape? n with
  | some (.scalar t) => t.enumValues
  | _ => []

/-- What the files of a crate put into comments as it is. -/
def quotations (b : Blueprint) (o : Options) : List String :=
  b.service.metadata.fullName :: b.service.metadata.apiVersion ::
    ((b.operations.flatMap fun op => op.name :: errorCodes b.service op) ++
      b.usage.enums.flatMap (enumTexts b.service) ++
      (wantedWaiters b o).flatMap fun r =>
        (b.service.operation? r.1.operation).toList.flatMap (waiterTexts r.1))

variable {b : Blueprint} {o : Options} {f : File} {n : String} {code : Code}

theorem forall_quotations_iff {P : String → Prop} : (∀ text ∈ quotations b o, P text) ↔
    P b.service.metadata.fullName ∧ P b.service.metadata.apiVersion ∧
      (∀ op ∈ b.operations, P op.name ∧ ∀ code ∈ errorCodes b.service op, P code) ∧
      (∀ n ∈ b.usage.enums, ∀ value ∈ enumTexts b.service n, P value) ∧
      ∀ r ∈ wantedWaiters b o, ∀ op, b.service.operation? r.1.operation = some op →
        ∀ text ∈ waiterTexts r.1 op, P text := by
  simp only [quotations, List.forall_mem_append, List.forall_mem_cons, List.forall_mem_flatMap,
    Option.mem_toList, and_assoc]

/-! ## The files -/

/-- The comments in the file of an enumeration say its values. -/
theorem enumFile_contained (hnames : b.names = TypeNames.assign b.service) :
    Yields (fun c => c.Contained ↔ ∀ value ∈ enumTexts b.service n, Harmless value)
      (enumFile b n) := by
  rw [enumFile]
  split
  next s hs =>
    have hvalues : enumTexts b.service n = (variants s.enumValues).map (·.value) := by
      rw [enumTexts, hs, values_variants]
    rw [hvalues]
    have hname := Blueprint.wordlike_typeName hnames n
    exact (enumCode_contained hname fun v hv => wordlike_variant hv).trans List.forall_mem_map.symm
  all_goals trivial

/-- The names in an iterator are identifiers. -/
theorem pagesOf_wordlike {op : Operation} {p : Pagination} :
    Yields (fun pages => Wordlike pages.method.toList ∧
      ∀ field, pages.limit = some field → Wordlike field.toList) (pagesOf b op p) := by
  rw [pagesOf]
  split
  next input output _ =>
    refine yields_bind fun assignments => yields_bind fun more => meets_pure ?_
    dsimp only
    refine ⟨wordlike_methodName op, fun field hfield => ?_⟩
    obtain ⟨name, -, rfl⟩ := Option.map_eq_some_iff.mp hfield
    exact Naming.wordlike_fieldIdent name
  next => trivial

theorem allPages_contained : (pagesFile b ((allPages b).map (·.2))).Contained ↔
    ∀ r ∈ allPages b, Harmless r.2.operation.name := by
  have hwordlike : ∀ r ∈ allPages b, Wordlike r.2.method.toList ∧
      ∀ field, r.2.limit = some field → Wordlike field.toList := by
    rintro ⟨p, pages⟩ hr
    obtain ⟨-, op, -, -, hpages⟩ := mem_allPages hr
    exact pagesOf_wordlike.value hpages
  rw [pagesFile_contained, List.forall_mem_map]
  · exact List.forall_mem_map.mpr fun r hr => (hwordlike r hr).1
  · exact List.forall_mem_map.mpr fun r hr => (hwordlike r hr).2

/-- The comments of the waiters say what each of them waits for. -/
theorem allWaiters_contained : (waitersFile b ((allWaiters b).map (·.2))).Contained ↔
    ∀ r ∈ allWaiters b, ∀ op, b.service.operation? r.1.operation = some op →
      ∀ text ∈ waiterTexts r.1 op, Harmless text := by
  rw [waitersFile_contained, List.forall_mem_map]
  refine forall₂_congr fun ⟨w, c⟩ hw => ?_
  obtain ⟨-, hattempt⟩ := mem_allWaiters hw
  obtain ⟨op, p, hop, -, rfl⟩ := exists_of_waiterAttempt hattempt
  rw [waiterCode_contained, hop]
  exact ⟨fun h op' hop' => Option.some.inj hop' ▸ h, fun h => h op rfl⟩

/-! ## The crate -/

/-- A file keeps its comments if all that the crate quotes is harmless. -/
theorem Written.contained (hnames : b.names = TypeNames.assign b.service)
    (hquoted : ∀ text ∈ quotations b o, Harmless text) (h : Written b o f (.code code)) :
    code.Contained := by
  obtain ⟨hfull, hversion, hoperations, henums, hwaiters⟩ := forall_quotations_iff.mp hquoted
  cases h with
  | client => exact clientFile_contained.mpr ⟨hfull, hversion, fun op hop => (hoperations op hop).2⟩
  | @operation op _ _ hop h =>
      obtain ⟨hname, -⟩ := hoperations op hop
      cases h with
      | input h => exact (inputFile_contained.value h).mpr hname
      | output h => exact (outputFile?_contained.value h _ rfl).mpr hname
  | type h =>
      cases h with
      | @ofStructure n t code hn ht h =>
          have hname := harmless_of_wordlike (Blueprint.wordlike_typeName hnames t.name)
          exact (structureFile_contained hname).value h
      | ofEnum hn h => exact ((enumFile_contained hnames).value h).mpr (henums _ hn)
  | index a => exact moduleFile_contained.mpr (by cases a <;> decide)
  | pages h =>
      rw [wantedPages_eq h, allPages_contained]
      intro r hr
      obtain ⟨-, op, hop, -, hpages⟩ := mem_allPages hr
      obtain ⟨-, -, -, -, -, -, heq, -⟩ := exists_of_pagesOf hpages
      exact heq ▸ (hoperations op hop).1
  | waiters h =>
      rw [wantedWaiters_eq h] at hwaiters ⊢
      exact allWaiters_contained.mpr hwaiters
  | library => exact library_contained.mpr ⟨hfull, hversion⟩

/-- Everything that the crate quotes stands in a file. -/
theorem harmless_of_written (hnames : b.names = TypeNames.assign b.service)
    (hb : Complete b) (h : ∀ f code, Written b o f (.code code) → code.Contained) :
    ∀ text ∈ quotations b o, Harmless text := by
  obtain ⟨hfull, hversion, hcodes⟩ := clientFile_contained.mp (h _ _ .client)
  refine forall_quotations_iff.mpr ⟨hfull, hversion, fun op hop => ⟨?_, hcodes op hop⟩,
    fun n hn => ?_, fun r hr => ?_⟩
  · obtain ⟨code, hcode⟩ := (hb.operations op hop).1
    exact (inputFile_contained.value hcode).mp (h _ _ (.operation hop (.input hcode)))
  · obtain ⟨code, hcode⟩ := hb.enums n hn
    exact ((enumFile_contained hnames).value hcode).mp (h _ _ (.type (.ofEnum hn hcode)))
  · have hne := List.ne_nil_of_mem hr
    have hkept := h _ _ (.waiters hne)
    rw [wantedWaiters_eq hne] at hkept hr
    exact allWaiters_contained.mp hkept r hr

/-- The comments of a crate end where they should if and only if nothing that is quoted
begins a line without a marker. -/
theorem contained_iff_of_generate (hnames : b.names = TypeNames.assign b.service)
    (h : (generate b o).result = .ok ()) :
    (∀ f code, .file f (.code code) ∈ (generate b o).events → code.Contained) ↔
      ∀ text ∈ quotations b o, Harmless text := by
  obtain ⟨hcomplete, hwritten⟩ := generate_ok h
  simp only [hwritten]
  exact ⟨harmless_of_written hnames hcomplete,
    fun hquoted f code hfile => hfile.contained hnames hquoted⟩

end Crate

namespace Generator

/-- Whatever a generator writes: its comments end where they should if and only if
nothing that they quote begins a line without a marker. -/
theorem comments_kept_iff {s : Service} {o : Options} {g : Generator} {out : String}
    (hg : Generator.of s o = .ok g) (hrun : (g.generate out).result = .ok ()) :
    (∀ f code, .file f (.code code) ∈ (Crate.generate g.blueprint o).events → code.Contained) ↔
      ∀ text ∈ Crate.quotations g.blueprint o, Harmless text := by
  obtain ⟨hb, hoptions⟩ := of_eq_ok hg
  obtain rfl : g.options = o := hoptions
  exact Crate.contained_iff_of_generate (Blueprint.names_of hb) hrun

end Generator

/-! ## An example

What the sky may be is listed in the definition, and the list is quoted. -/

namespace Definition

/-- The definition of the weather, with what the sky may be. -/
def weather (skies : List String) : Definition where
  version := none
  metadata :=
    { apiVersion := "1", endpointPrefix := "weather",
      protocol := some "rest-json", protocols := [], serviceId := none,
      serviceAbbreviation := none, serviceFullName := none, jsonVersion := none,
      targetPrefix := none, xmlNamespace := none, signingName := none,
      signatureVersion := none }
  operations :=
    [("GetWeather",
      { name := none, http := { method := "GET", requestUri := "/weather" },
        input := none, output := some ⟨"GetWeatherOutput", none⟩,
        errors := [], documentation := none, deprecated := false })]
  shapes :=
    [("GetWeatherOutput", { ShapeEntry.bare "structure" with
        members := [("Sky", MemberEntry.bare "Sky")] }),
      ("Sky", { ShapeEntry.bare "string" with enum := skies })]
  documentation := none

end Definition

/-- The documents of the weather. -/
def Sources.weather (skies : List String) : Sources where
  definition := Definition.weather skies
  givenName := none
  paginators := none
  waiters := none

/-- The blueprint of the weather. -/
def weatherBlueprint (s : Service) : Blueprint :=
  ⟨s, ⟨["GetWeather"], [], [], ["Sky"]⟩, TypeNames.assign s, s.boxedMembers⟩

namespace Generator

theorem generate_weather (skies : List String)
    (husage : ((Sources.weather skies).toService.result.map fun s =>
      Usage.analyze s []) = .ok (.ok ⟨["GetWeather"], [], [], ["Sky"]⟩))
    (hrun : ((Sources.weather skies).toService.result.map fun s =>
      (Crate.generate (weatherBlueprint s) {}).result) = .ok (.ok ())) :
    ∃ s, (Sources.weather skies).toService.result = .ok s ∧
      Generator.of s {} = .ok ⟨weatherBlueprint s, {}⟩ ∧
        (generate ⟨weatherBlueprint s, {}⟩ "out").result = .ok () := by
  obtain ⟨s, hs, husage⟩ := map_eq_ok.mp husage
  rw [hs] at hrun
  exact ⟨s, hs, bind_eq_ok.mpr ⟨_, bind_eq_ok.mpr ⟨_, husage, rfl⟩, rfl⟩, Except.ok.inj hrun⟩

/-- The crate is generated with either list of skies. -/
theorem runs_weather : ∀ skies ∈ [["clear", "cloudy"], ["clear", "cloudy\nrainy"]],
    ((Sources.weather skies).toService.result.map fun s =>
      (Crate.generate (weatherBlueprint s) {}).result) = .ok (.ok ()) := by
  decide +kernel

/-- Skies that are words stay in their comments. -/
theorem skies_kept : ∃ s g, (Sources.weather ["clear", "cloudy"]).toService.result = .ok s ∧
    Generator.of s {} = .ok g ∧ (g.generate "out").result = .ok () ∧
      ∀ f code, .file f (.code code) ∈ (Crate.generate g.blueprint {}).events → code.Contained := by
  obtain ⟨s, hs, hg, hrun⟩ :=
    generate_weather ["clear", "cloudy"] (by cbv) (runs_weather _ (by simp))
  have hquotations : ((Sources.weather ["clear", "cloudy"]).toService.result.map fun s =>
      Crate.quotations (weatherBlueprint s) {}) =
        .ok ["weather", "1", "GetWeather", "clear", "cloudy"] := by
    decide
  rw [hs] at hquotations
  have hharmless : ∀ text ∈ Crate.quotations (weatherBlueprint s) {}, Harmless text := by
    rw [show Crate.quotations (weatherBlueprint s) {} = _ from Except.ok.inj hquotations]
    decide
  exact ⟨s, _, hs, hg, hrun, (comments_kept_iff hg hrun).mpr hharmless⟩

/-- A sky of two lines does not: the second one is a line of the file. -/
theorem sky_escapes : ∃ s g code,
    (Sources.weather ["clear", "cloudy\nrainy"]).toService.result = .ok s ∧
      Generator.of s {} = .ok g ∧ (g.generate "out").result = .ok () ∧
        .file (.item .types "sky") (.code code) ∈ (Crate.generate g.blueprint {}).events ∧
          "    /// `cloudy\nrainy`" ∈ code.lines 0 ∧ ¬ code.Contained ∧
            "rainy`".toList ∈ linesOf code.fileText.toList ∧ ¬ Marked "rainy`".toList := by
  obtain ⟨s, hs, hg, hrun⟩ :=
    generate_weather ["clear", "cloudy\nrainy"] (by cbv) (runs_weather _ (by simp))
  have hlines : ((Sources.weather ["clear", "cloudy\nrainy"]).toService.result.map fun s =>
      ((weatherBlueprint s).moduleName "Sky", (Crate.enumFile (weatherBlueprint s) "Sky").map
        fun c => (c.lines 0).contains "    /// `cloudy\nrainy`")) = .ok ("sky", .ok true) := by
    decide
  rw [hs] at hlines
  obtain ⟨hmodule, hlines⟩ := Prod.mk.inj (Except.ok.inj hlines)
  obtain ⟨code, hcode, hline⟩ := map_eq_ok.mp hlines
  have hline := List.contains_iff_mem.mp hline
  have hfile := ((Crate.generate_ok hrun).2 _ _).mpr
    (.type (.ofEnum (List.mem_singleton_self "Sky") hcode))
  rw [hmodule] at hfile
  refine ⟨s, _, code, hs, hg, hrun, hfile, hline, fun hkept => ?_, ?_, by decide⟩
  · exact absurd (hkept _ hline) (by decide)
  · rw [Code.linesOf_fileText (List.ne_nil_of_mem hline)]
    exact List.mem_append_left _ (List.mem_flatMap.mpr ⟨_, hline, by decide⟩)

end Generator

end Clientwright
