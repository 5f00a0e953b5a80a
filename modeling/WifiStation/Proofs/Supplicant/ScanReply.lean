import WifiStation.Proofs.Supplicant.ScanRow
import WifiStation.Proofs.Text.Pieces
import WifiStation.Proofs.Text.Utf8
import WifiStation.Supplicant.Channel

/-!
# WifiStation.Proofs.Supplicant.ScanReply

The reply to a scan: what its lines have to do with each other, and what is left of it when it is
cut off.

Blanks behind a line say nothing (`read?_append_blanks`), a carriage return among them, and an empty
line is no row. So a reply is read piece by piece between line feeds (`readAll_eq`), and no line
knows of another (`readAll_append_end`).

A reply that is cut off, as by the buffer of a channel (`Datagram.text_encode_append`), is its
finished lines and the start of one more. The finished lines are read as they are in the whole reply
(`readAll_append`); the question is what the start of a line is read as. More text behind a line that
has its four columns lengthens the last of them at most (`columns?_append`). So the start of a row,
if it is read, tells of the network with the right address, frequency and level, but it may lack
flags or the end of its name (`cutFrom_of_read?`). It is read as well where the whole line is no row
because of what stands behind the cut.
-/

namespace WifiStation.Supplicant

open WifiStation.Text

/-! ### More text behind a line -/

theorem columns?_append_blanks (line : List Char) {bs : List Char} (blanks : Blanks bs) :
    columns? (line ++ bs) = (columns? line).map fun c => { c with name := c.name ++ bs } := by
  have next (s : List Char) := word?_append_blanks s blanks
  simp only [columns?, next, Option.bind_eq_bind, Option.bind_map, Function.comp_def,
    Option.map_bind, Option.pure_def, Option.map_some]

/-- Columns with more text behind the line: it stands behind the flags, unless they reached the end
of the line and are lengthened. -/
def Columns.extend (c : Columns) (more : List Char) : Columns :=
  { c with
    flags := if c.name = [] then c.flags ++ more.takeWhile (!isBlank ·) else c.flags
    name := if c.name = [] then more.dropWhile (!isBlank ·) else c.name ++ more }

/-- A word with another behind it keeps its place whatever is put behind the line. -/
theorem word?_append_of_word? {s w rest : List Char} {next : List Char × List Char}
    (h : word? s = some (w, rest)) (more : word? rest = some next) (t : List Char) :
    word? (s ++ t) = some (w, rest ++ t) := by
  have nonempty : rest ≠ [] := by
    rintro rfl
    cases more
  rw [word?_append h, if_neg nonempty]

theorem columns?_append {line : List Char} {c : Columns} (h : columns? line = some c)
    (more : List Char) : columns? (line ++ more) = some (c.extend more) := by
  simp only [columns?, Option.bind_eq_bind, Option.bind_eq_some_iff, Option.pure_def,
    Option.some.injEq] at h
  obtain ⟨_, first, _, second, _, third, _, fourth, rfl⟩ := h
  simp only [columns?, Option.bind_eq_bind, Option.pure_def, Option.bind_some,
    word?_append_of_word? first second, word?_append_of_word? second third,
    word?_append_of_word? third fourth, word?_append fourth, Columns.extend]
  split <;> rfl

namespace ScanResult

/-- Blanks behind a line say nothing. -/
theorem read?_append_blanks (line : List Char) {bs : List Char} (blanks : Blanks bs) :
    read? (line ++ bs) = read? line := by
  have same (c : Columns) : Columns.result? { c with name := c.name ++ bs } = c.result? := by
    simp only [Columns.result?, trim_append_blanks c.name blanks]
  rw [read?_eq, read?_eq, columns?_append_blanks line blanks]
  cases columns? line with
  | none => rfl
  | some c => exact same c

theorem read?_nil : read? [] = none := rfl

theorem read?_dropReturn (line : List Char) : read? (dropReturn line) = read? line := by
  rcases dropReturn_eq line with same | cut
  · rw [same]
  · have blanks : Blanks ['\r'] := by decide
    conv_rhs => rw [cut, read?_append_blanks _ blanks]

/-! ### A reply as its lines -/

/-- A reply is read piece by piece. -/
theorem readAll_eq (text : List Char) : readAll text = (pieces '\n' text).filterMap read? :=
  filterMap_lines read?_nil read?_dropReturn text

/-- What stands before a line feed and what stands behind it are read apart. -/
theorem readAll_newline (a b : List Char) : readAll (a ++ '\n' :: b) = readAll a ++ readAll b := by
  simp only [readAll_eq, pieces_append_cons, List.filterMap_append]

/-- A text without a line feed has at most one result. -/
theorem readAll_of_line {line : List Char} (single : '\n' ∉ line) :
    readAll line = (read? line).toList := by
  rw [readAll_eq, pieces_of_not_mem single, List.filterMap_eq_flatMap_toList, List.flatMap_singleton]

/-! ### Finished lines and the start of one more -/

/-- The finished lines of a text, each with its line feed. -/
def finished (text : List Char) : List Char := text.rdropWhile (· != '\n')

/-- What stands behind the last line feed. -/
def unfinished (text : List Char) : List Char := text.rtakeWhile (· != '\n')

theorem finished_append_unfinished (text : List Char) : finished text ++ unfinished text = text :=
  List.rdropWhile_append_rtakeWhile

theorem newline_not_mem_unfinished (text : List Char) : '\n' ∉ unfinished text := by
  intro h
  have other := List.mem_rtakeWhile_imp h
  simp at other

/-- Finished lines are read whatever stands behind them. -/
theorem readAll_finished_append (text more : List Char) :
    readAll (finished text ++ more) = readAll (finished text) ++ readAll more := by
  by_cases empty : finished text = []
  · rw [empty]
    rfl
  · have last : ¬((finished text).getLast empty != '\n') = true :=
      List.rdropWhile_last_not (· != '\n') text empty
    have newline : (finished text).getLast empty = '\n' := by simpa using last
    have split := List.dropLast_append_getLast empty
    rw [newline] at split
    rw [← split, List.append_assoc, List.singleton_append, readAll_newline, readAll_newline,
      show readAll [] = [] from rfl, List.append_nil]

/-- A text has the results of its finished lines, and at most one more. -/
theorem readAll_split (text : List Char) :
    readAll text = readAll (finished text) ++ (read? (unfinished text)).toList := by
  rw [← readAll_of_line (newline_not_mem_unfinished text), ← readAll_finished_append,
    finished_append_unfinished]

/-- With more behind it, the start of a line is the start of what is read next. -/
theorem readAll_append (text more : List Char) :
    readAll (text ++ more) = readAll (finished text) ++ readAll (unfinished text ++ more) := by
  rw [← readAll_finished_append, ← List.append_assoc, finished_append_unfinished]

theorem readAll_append_blanks (text : List Char) {bs : List Char} (blanks : Blanks bs)
    (single : '\n' ∉ bs) : readAll (text ++ bs) = readAll text := by
  have line : '\n' ∉ unfinished text ++ bs := by
    simp [newline_not_mem_unfinished text, single]
  rw [readAll_append, readAll_of_line line, read?_append_blanks _ blanks, ← readAll_split]

end ScanResult

/-- How a line ends. -/
inductive LineEnd where
  | lf
  | crlf
  deriving DecidableEq, Repr

namespace LineEnd

def chars : LineEnd → List Char
  | lf => ['\n']
  | crlf => ['\r', '\n']

end LineEnd

namespace ScanResult

theorem readAll_append_end (a : List Char) (e : LineEnd) (b : List Char) :
    readAll (a ++ (e.chars ++ b)) = readAll a ++ readAll b := by
  cases e with
  | lf => exact readAll_newline a b
  | crlf =>
      have return_ : readAll (a ++ ['\r']) = readAll a :=
        readAll_append_blanks a (by decide) (by decide)
      rw [← return_, ← readAll_newline, List.append_assoc]
      rfl

/-- Lines with their ends, and a last one that has none, are read one by one. -/
theorem readAll_lines (rows : List (List Char × LineEnd)) {last : List Char}
    (single : ∀ row ∈ rows, '\n' ∉ row.1) (single' : '\n' ∉ last) :
    readAll (rows.flatMap (fun row => row.1 ++ row.2.chars) ++ last) =
      (rows.map Prod.fst ++ [last]).filterMap read? := by
  rw [List.filterMap_eq_flatMap_toList]
  induction rows with
  | nil => simpa using readAll_of_line single'
  | cons row rows ih =>
      have first : '\n' ∉ row.1 := single row List.mem_cons_self
      have rest := ih fun row' h => single row' (List.mem_cons_of_mem row h)
      rw [List.flatMap_cons, List.append_assoc, List.append_assoc, readAll_append_end, rest,
        readAll_of_line first, List.map_cons, List.cons_append, List.flatMap_cons]

/-- No line of a reply to a scan knows of another: with a line feed between two texts, or a carriage
return and a line feed, the results are those of one text and then those of the other, however the
texts end. So a reply is read line by line. Its results are those of the lines that are rows, in
their order, and there are as many as there are rows. -/
theorem readAll_line_by_line :
    (∀ a b (e : LineEnd), readAll (a ++ (e.chars ++ b)) = readAll a ++ readAll b) ∧
      ∀ (rows : List (List Char × LineEnd)) (last : List Char),
        (∀ row ∈ rows, '\n' ∉ row.1) → '\n' ∉ last →
        let reply := rows.flatMap (fun row => row.1 ++ row.2.chars) ++ last
        let texts := rows.map Prod.fst ++ [last]
        readAll reply = texts.filterMap read? ∧
          (readAll reply).length = texts.countP fun line => (read? line).isSome := by
  refine ⟨fun a b e => readAll_append_end a e b, fun rows last single single' => ?_⟩
  have read := readAll_lines rows single single'
  exact ⟨read, by rw [read, List.length_filterMap_eq_countP]⟩

theorem readAll_line_by_line_mixed :
    let rows : List (List Char × LineEnd) :=
      [("bssid / frequency / signal level / flags / ssid".toList, .lf),
       ("aa:bb:cc:dd:ee:ff\t2437\t-45\t[ESS]\tfirst".toList, .crlf),
       ("aa:bb:cc:dd:ee:ff\t2437\t-45\t[WPA2-PSK-CC".toList, .crlf),
       ([], .lf)]
    let last := "00:11:22:33:44:55\t5180\t-60\t[ESS]\tsecond\r".toList
    readAll (rows.flatMap (fun row => row.1 ++ row.2.chars) ++ last) =
      [⟨⟨0xAA, 0xBB, 0xCC, 0xDD, 0xEE, 0xFF⟩, 2437, -45, .single .ess, "first"⟩,
       ⟨⟨0, 0x11, 0x22, 0x33, 0x44, 0x55⟩, 5180, -60, .single .ess, "second"⟩] := by
  intro rows last
  have read := (readAll_line_by_line.2 rows last (by decide) (by decide)).1
  rw [read]
  decide

end ScanResult

/-! ### A reply that is cut off -/

/-- Of a reply that is longer than the buffer, the start that fills it is taken. -/
theorem Datagram.text_encode_append {cut : List Char}
    (full : (Utf8.encode cut).length = maxDatagramBytes) (rest : List Char) :
    Datagram.text (Utf8.encode (cut ++ rest)) = String.ofList cut := by
  have bytes : Utf8.encode (cut ++ rest) = Utf8.encode cut ++ Utf8.encode rest :=
    List.flatMap_append
  rw [Datagram.text, bytes, List.take_left' full, Utf8.decodeLossy_encode]

namespace ScanResult

/-- What is left of a network whose line is cut off: there may be fewer flags and no name, or the
end of the name is missing. -/
structure CutFrom (x y : ScanResult) : Prop where
  bssid : x.bssid = y.bssid
  frequency : x.frequency = y.frequency
  rssi : x.rssi = y.rssi
  rest : x.flags = y.flags ∧ x.ssid.toList <+: y.ssid.toList ∨
    y.flags.contains x.flags = true ∧ x.ssid = ""

/-- A line of which the start is a row too tells of the same network, as far as the start goes. -/
theorem cutFrom_of_read? {line more : List Char} {x y : ScanResult} (start : read? line = some x)
    (whole : read? (line ++ more) = some y) : x.CutFrom y := by
  rw [read?_eq] at start whole
  obtain ⟨c, cut, told⟩ := Option.bind_eq_some_iff.mp start
  rw [columns?_append cut, Option.bind_some] at whole
  obtain ⟨bssid, frequency, rssi, ⟨tokens, read, flags⟩, ssid, -⟩ :=
    Columns.result?_eq_some_iff.mp told
  obtain ⟨bssid', frequency', rssi', ⟨tokens', read', flags'⟩, ssid', -⟩ :=
    Columns.result?_eq_some_iff.mp whole
  refine ⟨Option.some.inj (bssid.symm.trans bssid'), Option.some.inj (frequency.symm.trans frequency'),
    Option.some.inj (rssi.symm.trans rssi'), ?_⟩
  by_cases reached : c.name = []
  · -- The cut is in the flags or behind them: tokens may be missing, and there is no name yet.
    have longer : bracketed? (c.flags ++ more.takeWhile (!isBlank ·)) = some tokens' := by
      simpa [Columns.extend, reached] using read'
    have fewer := bracketed?_prefix read longer
    refine Or.inr ⟨Capabilities.contains_of_forall fun f hf => ?_, ?_⟩
    · rw [flags, Capabilities.contains_ofTokens] at hf
      obtain ⟨token, mem, named⟩ := hf
      rw [flags', Capabilities.contains_ofTokens]
      exact ⟨token, (fewer.map String.ofList).subset mem, named⟩
    · rw [ssid, reached]
      rfl
  · -- The cut is behind the flags: they are all there, and the name is cut.
    have same : bracketed? c.flags = some tokens' := by
      simpa [Columns.extend, reached] using read'
    obtain rfl : tokens = tokens' := Option.some.inj (read.symm.trans same)
    refine Or.inl ⟨by rw [flags, flags'], ?_⟩
    rw [ssid, ssid', String.toList_ofList, String.toList_ofList]
    simpa [Columns.extend, reached] using trim_prefix_append c.name more

/-- Finished lines give the same results in a reply and in the start of it. -/
theorem readAll_finished_prefix (cut rest : List Char) :
    readAll (finished cut) <+: readAll (cut ++ rest) := by
  rw [readAll_append]
  exact List.prefix_append _ _

/-- The results of a start are a start of the results exactly if what is read of the line that was
cut is the next result of the whole. -/
theorem readAll_prefix_iff (cut rest : List Char) :
    readAll cut <+: readAll (cut ++ rest) ↔
      ∀ x, read? (unfinished cut) = some x → (readAll (unfinished cut ++ rest)).head? = some x := by
  rw [readAll_append, readAll_split cut, List.prefix_append_right_inj]
  cases read? (unfinished cut) with
  | none => simp
  | some x => cases readAll (unfinished cut ++ rest) <;> simp [eq_comm]

/-- What the start of a reply shows that was cut off, whether by the buffer or otherwise. Its
finished lines are read as in the whole, and of the line that was cut there is one result at most.
The results are a start of those of the whole exactly if this one is the next result of the whole.
It need not be: where the line that was cut is a row, a network is shown with its address, frequency
and level, but perhaps without some of its flags or the end of its name. -/
theorem readAll_cut_prefix_iff (cut rest : List Char) :
    let line := unfinished cut ++ rest.takeWhile (· != '\n')
    readAll cut = readAll (finished cut) ++ (read? (unfinished cut)).toList ∧
      readAll (finished cut) <+: readAll (cut ++ rest) ∧
      (readAll cut <+: readAll (cut ++ rest) ↔
        ∀ x, read? (unfinished cut) = some x →
          (readAll (unfinished cut ++ rest)).head? = some x) ∧
      ∀ x y, read? (unfinished cut) = some x → read? line = some y → x.CutFrom y :=
  ⟨readAll_split cut, readAll_finished_prefix cut rest, readAll_prefix_iff cut rest,
    fun _ _ => cutFrom_of_read?⟩

theorem readAll_cut_prefix_iff_name :
    let x := ScanResult.mk ⟨0xAA, 0xBB, 0xCC, 0xDD, 0xEE, 0xFF⟩ 2437 (-45) (.single .ess) "MyNet"
    x.CutFrom { x with ssid := "MyNetwork" } :=
  (readAll_cut_prefix_iff "aa:bb:cc:dd:ee:ff 2437 -45 [ESS] MyNet".toList "work\n".toList).2.2.2 _ _
    (by decide) (by decide)

/-- A reply that is cut in the name shows a network of a name that is not there; cut between two
flags, it shows the network as an open one. -/
theorem cut_reply_shows_network :
    let reply := "aa:bb:cc:dd:ee:ff 2437 -45 [ESS][WPA2-PSK-CCMP] MyNetwork\n".toList
    let inName := "aa:bb:cc:dd:ee:ff 2437 -45 [ESS][WPA2-PSK-CCMP] MyNet".toList
    let inFlags := "aa:bb:cc:dd:ee:ff 2437 -45 [ESS]".toList
    (inName <+: reply ∧ ¬readAll inName <+: readAll reply) ∧
      inFlags <+: reply ∧ ¬readAll inFlags <+: readAll reply := by
  decide

end ScanResult

end WifiStation.Supplicant
