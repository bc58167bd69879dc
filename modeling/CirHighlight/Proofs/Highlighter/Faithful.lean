import CirHighlight.CommandLine.Run
import CirHighlight.Proofs.CommandLine.Report
import CirHighlight.Proofs.Server.Step
import CirHighlight.Proofs.Server.Wire

namespace CirHighlight

namespace Server

variable {κ : Type} [DecidableEq κ]

theorem step_ne_failed {provider : Provider} {server : Server κ} {request : Request κ}
    {text : String} {tokens : TokenStream}
    (htext : server.documents.text? request.uri = some text)
    (htokens : provider text = some tokens) : (server.step provider request).1 ≠ .failed := by
  intro hfailed
  have hstep := transition_step provider server request
  generalize (server.step provider request).1 = answer at hfailed hstep
  generalize (server.step provider request).2 = next at hstep
  cases hstep with
  | opened | changed | closed | unknown => cases hfailed
  | failed hasks hopen hfails =>
    rw [htext] at hopen
    rw [← Option.some.inj hopen, htokens] at hfails
    cases hfails
  | @answered request text found hasks =>
    have hid := server.sessions.answer_id? found hasks
    rw [hfailed] at hid
    cases hid

end Server

namespace CommandLine.Inspect

theorem source_eq_ok {files : Files} {path text : String} (h : (files path).text = .ok text) :
    source files path = .ok text := by
  rw [source, h]
  rfl

theorem stream_eq_ok {highlighter : Highlighter} {text : String} {tokens : TokenStream}
    (h : highlighter.highlight text = .ok tokens) (path : String) :
    stream highlighter path text = .ok tokens := by
  rw [stream, h]
  rfl

theorem output_encoded {files : Files} {highlighter : Highlighter} {path text : String}
    {tokens : TokenStream} (htext : (files path).text = .ok text)
    (htokens : highlighter.highlight text = .ok tokens) :
    output files highlighter (.tokens path .encoded) = .ok (Report.encoded tokens) := by
  rw [output, source_eq_ok htext]
  change (do return Report.encoded (← stream highlighter path text)) = _
  rw [stream_eq_ok htokens]
  rfl

theorem output_rows {files : Files} {path text : String} (htext : (files path).text = .ok text)
    (highlighter : Highlighter) :
    output files highlighter (.tokens path .json) =
        .ok (Report.json (highlighter.emitted text)) ∧
      output files highlighter (.tokens path .table) =
        .ok (Report.table (highlighter.emitted text)) := by
  rw [output, output, source_eq_ok htext]
  exact ⟨rfl, rfl⟩

end CommandLine.Inspect

namespace Highlighter

/-- Every document has a stream of whole tokens, which decodes to the tokens that are emitted, with
their exact lengths and categories of the legend. No request about it fails, and the program
prints its integers, or rows that show the entries that it decodes to. -/
theorem highlight_faithful (highlighter : Highlighter) {text : String}
    (hsize : Text.byteSize text.toList < 2 ^ 32) :
    ∃ stream, highlighter.highlight text = .ok stream ∧
      stream.integers.length % 5 = 0 ∧
      TokenStream.read stream.integers = .ok stream ∧
      stream.decode = (highlighter.emitted text).map Entry.ofRow ∧
      (∀ row ∈ highlighter.emitted text,
        row.1.length.toNat = Text.unitCount row.1.text.toList) ∧
      (∀ relative ∈ stream, relative.category.toNat < Category.legend.length) ∧
      (∀ (κ : Type) [DecidableEq κ] (server : Server κ) (request : Request κ),
        server.documents.text? request.uri = some text →
        (server.step highlighter.provider request).1 ≠ .failed) ∧
      (∀ path, CommandLine.Inspect.stream highlighter path text = .ok stream) ∧
      ∀ (files : Files) (path : String), (files path).text = .ok text →
        CommandLine.Inspect.output files highlighter (.tokens path .encoded) =
            .ok (CommandLine.Report.encoded stream) ∧
          Json.read? (CommandLine.Report.encoded stream) =
            some (.array (stream.integers.map fun number => .integer number.toNat)) ∧
          CommandLine.Inspect.output files highlighter (.tokens path .json) =
            .ok (CommandLine.Report.json (highlighter.emitted text)) ∧
          CommandLine.Report.ShowsAll (CommandLine.Report.json (highlighter.emitted text))
            stream.decode ∧
          CommandLine.Inspect.output files highlighter (.tokens path .table) =
            .ok (CommandLine.Report.table (highlighter.emitted text)) ∧
          CommandLine.Report.TellsAll (CommandLine.Report.table (highlighter.emitted text))
            stream.decode := by
  obtain ⟨stream, hstream, hdecode⟩ := exists_highlight_eq_ok hsize highlighter
  have hprovider : highlighter.provider text = some stream := by
    rw [provider, hstream]
    rfl
  have hwhole : stream.integers.length % 5 = 0 := stream.length_integers_mod
  refine ⟨stream, hstream, hwhole, ?_, hdecode, ?_, ?_, ?_, ?_, ?_⟩
  · rw [TokenStream.read, TokenStream.tokenWidth, if_pos hwhole, TokenStream.ofIntegers_integers]
  · intro row hmem
    exact length_of_mem_emitted hsize hmem
  · intro relative hmem
    exact category_lt_of_decode hdecode hmem
  · intro κ _ server request htext
    exact Server.step_ne_failed htext hprovider
  · intro path
    exact CommandLine.Inspect.stream_eq_ok hstream path
  · intro files path htext
    obtain ⟨hjson, htable⟩ := CommandLine.Inspect.output_rows htext highlighter
    rw [hdecode]
    refine ⟨CommandLine.Inspect.output_encoded htext hstream,
      CommandLine.Report.read?_encoded stream, hjson, CommandLine.Report.showsAll_json _, htable,
      ?_⟩
    apply CommandLine.Report.tellsAll_table
    intro row hmem
    exact newline_not_mem_of_mem_emitted hsize hmem

/-- An operation, a character of two units, a word that is left out and a comment. -/
theorem highlight_faithful_omitted_word :
    let text := "cir.f 😀x %0 // c"
    let files : Files := fun _ => .content text.toUTF8
    let printed := " LINE   COL   LEN  CATEGORY    TEXT\n" ++
      "    0     0     3  namespace   cir\n" ++ "    0     4     1  function    f\n" ++
      "    0    10     2  variable    %0\n" ++ "    0    13     4  comment     // c\n"
    Text.byteSize text.toList < 2 ^ 32 ∧ (files "a.cir").text = .ok text ∧
      ∃ stream, ({} : Highlighter).highlight text = .ok stream ∧
        stream.decode =
          [⟨0, 0, 3, 8, 0⟩, ⟨0, 4, 1, 1, 0⟩, ⟨0, 10, 2, 2, 0⟩, ⟨0, 13, 4, 4, 0⟩] ∧
        CommandLine.Inspect.output files {} (.tokens "a.cir" .table) = .ok printed ∧
        CommandLine.Report.TellsAll printed stream.decode ∧
        ∃ rows, CommandLine.Inspect.output files {} (.tokens "a.cir" .json) = .ok rows ∧
          CommandLine.Report.ShowsAll rows stream.decode := by
  intro text files printed
  have hsize : Text.byteSize text.toList < 2 ^ 32 := by decide
  have htext : (files "a.cir").text = .ok text := by decide +kernel
  have hrows : (({} : Highlighter).emitted text).map Entry.ofRow =
      [⟨0, 0, 3, 8, 0⟩, ⟨0, 4, 1, 1, 0⟩, ⟨0, 10, 2, 2, 0⟩, ⟨0, 13, 4, 4, 0⟩] := by
    decide +kernel
  have hprinted : CommandLine.Report.table (({} : Highlighter).emitted text) = printed := by
    decide +kernel
  obtain ⟨stream, hstream, -, -, hdecode, -, -, -, -, houtput⟩ := highlight_faithful {} hsize
  obtain ⟨-, -, hjson, hshows, htable, htells⟩ := houtput files "a.cir" htext
  rw [hprinted] at htable htells
  exact ⟨hsize, htext, stream, hstream, hdecode.trans hrows, htable, htells, _, hjson, hshows⟩

end Highlighter

end CirHighlight
