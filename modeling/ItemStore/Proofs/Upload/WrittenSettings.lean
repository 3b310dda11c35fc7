import ItemStore.Proofs.Query.WrittenQuery
import ItemStore.Proofs.Upload.WrittenPreset
import ItemStore.Upload.Request
import ItemStore.Upload.Settings

/-! # Settings and requests written and read

Settings are read again from what is written for them, and so are requests, with all values in them.
-/
namespace ItemStore.Upload
open Json (Decoder Record)
open Json.Decoder

namespace Settings

structure Settled (settings : Settings) : Prop where
  presets : ∀ p ∈ settings.presets, p.Settled
  maxPayloadKB : Number.fitsInt64 settings.maxPayloadKB = true

variable {settings : Settings}

theorem settled_of_read {levels : Nat} {w : Json.Written} (h : read levels w = some settings) :
    settings.Settled := by
  simp only [read, Option.bind_eq_bind, Option.bind_eq_some_iff] at h
  obtain ⟨record, -, presets, hpresets, maxPayloadKB, hmax, h⟩ := h
  cases h
  refine ⟨?_, Preset.fitsInt64_of_withDefault hmax⟩
  rcases Record.exists_of_withDefault hpresets with ⟨w, -, hread⟩ | rfl
  · intro p hp
    obtain ⟨inner, items, -, -, hitems⟩ := exists_of_list hread
    obtain ⟨item, -, hitem⟩ := hitems p hp
    exact Preset.settled_of_read hitem
  · simp

theorem restores (h : settings.Settled) (levels : Nat) :
    read.Restores (levels + 5) settings.toJson settings := by
  let fields := [
    ("uploadPresets", Json.array (settings.presets.map Preset.toJson)),
    ("maxUploadPayloadKB", Json.ofInt settings.maxPayloadKB)]
  have hpresets := restores_list settings.presets fun p hp =>
    Preset.restores (h.presets p hp) levels
  have hmax := restores_int64 h.maxPayloadKB (levels + 4)
  have hfirst := Record.withDefault_ofFields fields "uploadPresets" []
    (by simp [fields]) hpresets
  have hsecond := Record.withDefault_ofFields fields "maxUploadPayloadKB" 0
    (by simp [fields]) hmax
  refine Record.restores_object fields (by simp [fields]) (by simp [fields]) ?_ ?_
  · simpa [fields] using ⟨hpresets.inRange, hmax.inRange⟩
  · simp only [Option.bind_eq_bind, Option.bind_some, hfirst, hsecond]

end Settings

namespace UploadRequest
variable {request : UploadRequest}

theorem settled_of_read {levels : Nat} {w : Json.Written} (hw : w.InRange)
    (h : read (levels + 2) w = some request) : ∀ item ∈ request.items, item.Taken levels := by
  simp only [read, Option.bind_eq_bind, Option.bind_eq_some_iff] at h
  obtain ⟨record, hrecord, presetId, -, items, hitems, dryRun, -, mode, -, h⟩ := h
  cases h
  obtain ⟨hlevels, hfields⟩ := Record.inRange_of_ofWritten? hw hrecord
  rcases Record.exists_of_withDefault hitems with ⟨w, hmem, hread⟩ | rfl
  · intro item hitem
    have hrange := hfields _ hmem
    obtain ⟨inner, written, hinner, hw, hvalues⟩ := exists_of_list hread
    obtain ⟨value, hvalue, htaken⟩ := hvalues item hitem
    obtain rfl : inner = levels := by omega
    rcases hw with rfl | rfl
    · cases hrange with
      | array hall => exact (hall value hvalue).taken htaken
    · cases hrange with
      | openArray hall => exact (hall value hvalue).taken htaken
  · simp

theorem restores (levels : Nat) (h : ∀ item ∈ request.items, item.Taken levels) :
    read.Restores (levels + 2) request.toJson request := by
  let members := [
    (true, "presetId", Json.string request.presetId),
    (true, "items", Json.array request.items),
    (request.dryRun, "dryRun", Json.bool true),
    (request.mode.isSome, "mode", Json.string (request.mode.getD ""))]
  have hnames : (members.map fun member => member.2.1).Nodup := by simp [members]
  have hid := Record.withDefault_written hnames "presetId" "" true (by simp [members])
    (fun _ => restores_text request.presetId (levels + 1)) nofun
  have hvalues := restores_list request.items fun item hitem => restores_value (h item hitem)
  rw [List.map_id'] at hvalues
  have hitems := Record.withDefault_written hnames "items" [] true (by simp [members]) (fun _ => hvalues)
    nofun
  have hset (h : request.dryRun = true) : flag.Restores (levels + 1) (.bool true) request.dryRun := by
    rw [h]
    exact restores_flag true _
  have hdryRun := Record.withDefault_written hnames "dryRun" false request.dryRun (by simp [members])
    hset id
  have hsome (h : request.mode.isSome = true) :
      (Decoder.optional text).Restores (levels + 1) (.string (request.mode.getD "")) request.mode := by
    obtain ⟨mode, hmode⟩ := Option.isSome_iff_exists.mp h
    rw [hmode]
    exact (restores_text mode _).optional rfl
  have hmode := Record.withDefault_written hnames "mode" none request.mode.isSome (by simp [members])
    hsome fun hnone => by simpa using hnone
  have hrange : ∀ member ∈ members, member.2.2.InRange := by
    simp only [members, List.forall_mem_cons, List.not_mem_nil, false_implies, implies_true, and_true]
    exact ⟨.string _, hvalues.inRange, .bool _, .string _⟩
  refine Record.restores_written members hnames (by simp [members])
    (fun member hmem _ => hrange member hmem) ?_
  simp only [Option.bind_eq_bind, Option.bind_some, hid, hitems, hdryRun, hmode]

end UploadRequest

/-! ### Documents -/

/-- What is read from any text is read again from what is written for it. -/
def Survives {α : Type} (read : Decoder α) (encode : α → Json) : Prop :=
  ∀ (text : List Text.Symbol) (a : α), read.run text = some a →
    read.run (Text.symbols (Text.bytes (encode a).render)) = some a

theorem survives_of_restores {α : Type} {read : Decoder α} {encode : α → Json}
    (h : ∀ w a, w.InRange → read Json.maxLevels w = some a →
      read.Restores Json.maxLevels (encode a) a) : Survives read encode := by
  intro text a hread
  obtain ⟨w, hw, ha⟩ := Option.bind_eq_some_iff.mp hread
  exact (h w a (Json.Written.inRange_of_read? hw) ha).run_render

/-- Queries, presets and their views, settings and requests all survive, and from the view of a
preset that was read the whole preset is read. -/
theorem survives_settings :
    Survives Query.read Query.toJson ∧ Survives Preset.read Preset.toJson ∧
    Survives PresetSummary.read PresetSummary.toJson ∧ Survives Settings.read Settings.toJson ∧
    Survives UploadRequest.read UploadRequest.toJson ∧
    ∀ (text : List Text.Symbol) (p : Preset), Preset.read.run text = some p →
      Preset.read.run (Text.symbols (Text.bytes p.summary.toJson.render)) = some p := by
  refine ⟨?_, ?_, ?_, ?_, ?_, ?_⟩
  · exact survives_of_restores fun w query _ h => Query.restores (Query.settled_of_read h) 124
  · exact survives_of_restores fun w p _ h => Preset.restores (Preset.settled_of_read h) 124
  · exact survives_of_restores fun w s _ h => PresetSummary.restores (PresetSummary.settled_of_read h) 124
  · exact survives_of_restores fun w s _ h => Settings.restores (Settings.settled_of_read h) 122
  · exact survives_of_restores fun w request hw h =>
      UploadRequest.restores 125 (UploadRequest.settled_of_read hw h)
  · intro text p hread
    obtain ⟨w, hw, hp⟩ := Option.bind_eq_some_iff.mp hread
    exact (Preset.restores_summary (Preset.settled_of_read hp) 124).run_render

/-- An operation between blanks, a limit and a direction that stand for none, and a request whose
items hold a float. -/
theorem survives_settings_loosely_written :
    let presetText := Text.symbolsOf
      "\x7b\"table\": \"t\", \"operation\": \" UPDATE \", \"schema\": [\x7b\"name\": \"a\"\x7d]\x7d"
    let queryText := Text.symbolsOf "\x7b\"limit\": -3, \"sortDirection\": \"DESC\"\x7d"
    let requestText := Text.symbolsOf "\x7b\"presetId\": \"p\", \"items\": [[1.0]], \"mode\": null\x7d"
    (∃ p, p.operation = .update ∧ Preset.read.run presetText = some p ∧
      Preset.read.run (Text.symbols (Text.bytes p.toJson.render)) = some p ∧
      Preset.read.run (Text.symbols (Text.bytes p.summary.toJson.render)) = some p) ∧
    (∃ query, query.limit = none ∧ query.direction = .ascending ∧ Query.read.run queryText = some query ∧
      Query.read.run (Text.symbols (Text.bytes query.toJson.render)) = some query) ∧
    ∃ request, request.presetId = "p" ∧ UploadRequest.read.run requestText = some request ∧
      UploadRequest.read.run (Text.symbols (Text.bytes request.toJson.render)) = some request := by
  intro presetText queryText requestText
  have hpreset : (Preset.read.run presetText).map (·.operation) = some .update := by
    subst presetText
    decide +kernel
  have hquery : (Query.read.run queryText).map (fun query => (query.limit, query.direction)) =
      some (none, .ascending) := by
    subst queryText
    decide +kernel
  have hrequest : (UploadRequest.read.run requestText).map (·.presetId) = some "p" := by
    subst requestText
    decide +kernel
  obtain ⟨p, hp, hoperation⟩ := Option.map_eq_some_iff.mp hpreset
  obtain ⟨query, hq, heq⟩ := Option.map_eq_some_iff.mp hquery
  obtain ⟨hlimit, hdirection⟩ := Prod.mk.inj heq
  obtain ⟨request, hr, hid⟩ := Option.map_eq_some_iff.mp hrequest
  obtain ⟨hqueries, hpresets, -, -, hrequests, hsummaries⟩ := survives_settings
  exact ⟨⟨p, hoperation, hp, hpresets _ p hp, hsummaries _ p hp⟩,
    ⟨query, hlimit, hdirection, hq, hqueries _ query hq⟩, request, hid, hr, hrequests _ request hr⟩

end ItemStore.Upload
