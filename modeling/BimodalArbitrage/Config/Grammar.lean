import BimodalArbitrage.Config
import BimodalArbitrage.Text.Join

/-!
# The grammar of the monitored markets

Entries between commas, fields between colons. What is refused, what is returned, and
which texts an entry can be read back from.
-/

namespace BimodalArbitrage
open Execution

/-! ### Joined and split texts -/

/-- `sep.join(parts)`. -/
def pyJoin (sep : Char) (parts : List String) : String :=
  String.ofList ([sep].intercalate (parts.map String.toList))

theorem toList_pyJoin (sep : Char) (parts : List String) :
    (pyJoin sep parts).toList = [sep].intercalate (parts.map String.toList) :=
  String.toList_ofList

theorem pySplit_pyJoin {sep : Char} {parts : List String} (hne : parts ≠ [])
    (hsep : ∀ part ∈ parts, sep ∉ part.toList) : pySplit sep (pyJoin sep parts) = parts := by
  have hlists : ∀ part ∈ parts.map String.toList, sep ∉ part := by
    intro part hpart
    obtain ⟨text, htext, rfl⟩ := List.mem_map.mp hpart
    exact hsep text htext
  have hnonempty : parts.map String.toList ≠ [] := by
    intro h
    exact hne (List.map_eq_nil_iff.mp h)
  have hback : String.ofList ∘ String.toList = id := funext fun _ => String.ofList_toList
  rw [pySplit, toList_pyJoin, List.splitOn_intercalate sep hlists hnonempty, List.map_map, hback,
    List.map_id]

theorem length_pySplit (sep : Char) (s : String) :
    (pySplit sep s).length = s.toList.count sep + 1 := by
  rw [pySplit, List.length_map, Text.length_splitOn]

/-- `sep` is written by `pyJoin`, everything else by a part. -/
theorem notMem_pyJoin {sep c : Char} {parts : List String} (hsep : c ≠ sep)
    (hparts : ∀ part ∈ parts, c ∉ part.toList) : c ∉ (pyJoin sep parts).toList := by
  intro h
  rw [toList_pyJoin] at h
  rcases Text.mem_join h with heq | ⟨text, htext, hc⟩
  · exact hsep heq
  · obtain ⟨part, hpart, rfl⟩ := List.mem_map.mp htext
    exact hparts part hpart hc

/-! ### Chunks -/

def isBlank (chunk : String) : Bool := chunk.toList.all isPySpace

theorem pyStrip_eq_empty {chunk : String} : pyStrip chunk = "" ↔ isBlank chunk = true := by
  rw [← String.toList_eq_nil_iff, toList_pyStrip, Text.trim_eq_nil, isBlank, List.all_eq_true]

def nonblankChunks (raw : String) : List String :=
  (pySplit ',' raw).filter fun chunk => !isBlank chunk

theorem mem_nonblankChunks {raw chunk : String} :
    chunk ∈ nonblankChunks raw ↔ chunk ∈ pySplit ',' raw ∧ isBlank chunk = false := by
  rw [nonblankChunks, List.mem_filter, Bool.not_eq_true']

theorem chunks_eq (raw : String) : chunks raw = (nonblankChunks raw).map pyStrip := by
  have hblank (chunk : String) : decide (pyStrip chunk ≠ "") = !isBlank chunk := by
    cases hb : isBlank chunk with
    | true => rw [pyStrip_eq_empty.mpr hb, decide_eq_false (fun h => h rfl), Bool.not_true]
    | false =>
      have hne : pyStrip chunk ≠ "" := by
        intro h
        rw [pyStrip_eq_empty.mp h] at hb
        cases hb
      rw [decide_eq_true hne, Bool.not_false]
  rw [chunks, List.filter_map, Function.comp_def, nonblankChunks]
  simp only [hblank]

theorem nonblankChunks_pyJoin {texts : List String}
    (h : ∀ text ∈ texts, ',' ∉ text.toList ∧ isBlank text = false) :
    nonblankChunks (pyJoin ',' texts) = texts := by
  cases texts with
  | nil => rfl
  | cons text rest =>
    rw [nonblankChunks, pySplit_pyJoin (List.cons_ne_nil _ _) fun part hpart => (h part hpart).1,
      List.filter_eq_self]
    intro part hpart
    rw [(h part hpart).2, Bool.not_false]

theorem count_pyStrip {c : Char} (hc : isPySpace c = false) (chunk : String) :
    (pyStrip chunk).toList.count c = chunk.toList.count c := by
  rw [toList_pyStrip, Text.count_trim hc]

theorem badChunk_iff {raw : String} {colons : ℕ} :
    (∃ chunk ∈ chunks raw, chunk.toList.count ':' ≠ colons) ↔
      ∃ chunk ∈ pySplit ',' raw, isBlank chunk = false ∧ chunk.toList.count ':' ≠ colons := by
  have hcolon : isPySpace ':' = false := by decide
  rw [chunks_eq]
  constructor
  · rintro ⟨text, htext, hcount⟩
    obtain ⟨chunk, hchunk, rfl⟩ := List.mem_map.mp htext
    obtain ⟨hmem, hblank⟩ := mem_nonblankChunks.mp hchunk
    rw [count_pyStrip hcolon] at hcount
    exact ⟨chunk, hmem, hblank, hcount⟩
  · rintro ⟨chunk, hmem, hblank, hcount⟩
    rw [← count_pyStrip hcolon] at hcount
    have hchunk := mem_nonblankChunks.mpr ⟨hmem, hblank⟩
    exact ⟨pyStrip chunk, List.mem_map_of_mem hchunk, hcount⟩

/-! ### Entries -/

/-- An entry is read from its own fields, and nothing is read from a list of another
length. -/
structure ReadsFields {α : Type} (ofParts : List String → Option α) (fields : α → List String)
    (colons : ℕ) : Prop where
  eq_some : ∀ {parts entry}, ofParts parts = some entry ↔ parts = fields entry
  eq_none : ∀ {parts}, ofParts parts = none ↔ parts.length ≠ colons + 1

section
variable {α : Type} {ofParts : List String → Option α} {variableName expected : String}

theorem readEntry_error {chunk : String} {e : PyError}
    (h : readEntry variableName expected ofParts chunk = .error e) :
    e.cls = .valueError ∧ ofParts (pySplit ':' chunk) = none := by
  unfold readEntry at h
  cases hparts : ofParts (pySplit ':' chunk) with
  | some parsed =>
    rw [hparts] at h
    cases h
  | none =>
    rw [hparts] at h
    cases h
    exact ⟨rfl, rfl⟩

end

namespace ReadsFields
variable {α : Type} {ofParts : List String → Option α} {fields : α → List String} {colons : ℕ}
variable {variableName expected raw : String} (hreads : ReadsFields ofParts fields colons)
include hreads

theorem length_fields (entry : α) : (fields entry).length = colons + 1 := by
  by_contra h
  have hnone : ofParts (fields entry) = none := hreads.eq_none.mpr h
  rw [hreads.eq_some.mpr rfl] at hnone
  cases hnone

theorem fields_ne_nil (entry : α) : fields entry ≠ [] := by
  intro hnil
  have hlength := hreads.length_fields entry
  rw [hnil] at hlength
  cases hlength

/-- The entries are the chunks, split at their colons. -/
theorem parseEntries_ok_iff {entries : List α} :
    parseEntries variableName expected ofParts raw = .ok entries ↔
      (chunks raw).map (pySplit ':') = entries.map fields := by
  have hread (chunk : String) (entry : α) :
      readEntry variableName expected ofParts chunk = .ok entry ↔
        pySplit ':' chunk = fields entry := readEntry_eq_ok.trans hreads.eq_some
  rw [parseEntries, mapM_ok_iff, ← List.forall₂_eq_eq_eq, List.forall₂_map_left_iff,
    List.forall₂_map_right_iff]
  exact ⟨List.Forall₂.imp fun chunk entry => (hread chunk entry).mp,
    List.Forall₂.imp fun chunk entry => (hread chunk entry).mpr⟩

theorem count_of_parseEntries_ok {entries : List α}
    (h : parseEntries variableName expected ofParts raw = .ok entries) :
    ∀ chunk ∈ chunks raw, chunk.toList.count ':' = colons := by
  intro chunk hchunk
  have hmem : pySplit ':' chunk ∈ entries.map fields := by
    rw [← hreads.parseEntries_ok_iff.mp h]
    exact List.mem_map_of_mem hchunk
  obtain ⟨entry, -, hentry⟩ := List.mem_map.mp hmem
  have hlength := hreads.length_fields entry
  rw [hentry, length_pySplit] at hlength
  exact Nat.succ_injective hlength

theorem of_parseEntries_error {e : PyError}
    (h : parseEntries variableName expected ofParts raw = .error e) :
    e.cls = .valueError ∧ ∃ chunk ∈ chunks raw, chunk.toList.count ':' ≠ colons := by
  obtain ⟨chunk, hchunk, herror⟩ := mapM_error h
  obtain ⟨hclass, hnone⟩ := readEntry_error herror
  refine ⟨hclass, chunk, hchunk, fun hcount => hreads.eq_none.mp hnone ?_⟩
  rw [length_pySplit, hcount]

end ReadsFields

/-! ### Exactness -/

/-- A field that can be read back. -/
structure CleanField (field : String) : Prop where
  nonempty : field ≠ ""
  noComma : ',' ∉ field.toList
  noColon : ':' ∉ field.toList
  trimmed : Text.Trimmed isPySpace field.toList

/-- `text` is `field:field:...`, with white space in front and behind. -/
def PrintedAs (fields : List String) (text : String) : Prop :=
  ∃ before after : List Char, (∀ c ∈ before, isPySpace c = true) ∧
    (∀ c ∈ after, isPySpace c = true) ∧
    text = String.ofList (before ++ (pyJoin ':' fields).toList ++ after)

section
variable {fields : List String} {text : String}

theorem CleanField.toList_ne_nil {field : String} (h : CleanField field) : field.toList ≠ [] :=
  fun hnil => h.nonempty (String.toList_eq_nil_iff.mp hnil)

theorem trimmed_pyJoin {sep : Char} (hclean : ∀ field ∈ fields, CleanField field) :
    Text.Trimmed isPySpace (pyJoin sep fields).toList := by
  rw [toList_pyJoin]
  refine Text.trimmed_join (fun part hpart => ?_) fun part hpart => ?_
  · obtain ⟨field, hfield, rfl⟩ := List.mem_map.mp hpart
    exact (hclean field hfield).toList_ne_nil
  · obtain ⟨field, hfield, rfl⟩ := List.mem_map.mp hpart
    exact (hclean field hfield).trimmed

theorem pyJoin_ne_empty {sep : Char} (hne : fields ≠ [])
    (hclean : ∀ field ∈ fields, CleanField field) : pyJoin sep fields ≠ "" := by
  intro h
  cases fields with
  | nil => exact hne rfl
  | cons field fields =>
    have hfirst := (hclean field (List.mem_cons_self ..)).toList_ne_nil
    have hhead : ([sep].intercalate (field.toList :: fields.map String.toList)).head? =
        field.toList.head? := Text.head?_join hfirst _
    rw [← List.map_cons, ← toList_pyJoin, h] at hhead
    exact hfirst (List.head?_eq_none_iff.mp hhead.symm)

theorem pyStrip_printed (hclean : ∀ field ∈ fields, CleanField field)
    (h : PrintedAs fields text) : pyStrip text = pyJoin ':' fields := by
  obtain ⟨before, after, hbefore, hafter, rfl⟩ := h
  rw [pyStrip_ofList hbefore hafter (trimmed_pyJoin hclean), String.ofList_toList]

theorem comma_notMem_printed (hclean : ∀ field ∈ fields, CleanField field)
    (h : PrintedAs fields text) : ',' ∉ text.toList := by
  obtain ⟨before, after, hbefore, hafter, rfl⟩ := h
  have hcomma : isPySpace ',' = false := by decide
  have hblank {cs : List Char} (hcs : ∀ c ∈ cs, isPySpace c = true) : ',' ∉ cs := by
    intro hmem
    rw [hcs _ hmem] at hcomma
    cases hcomma
  rw [String.toList_ofList, List.mem_append, List.mem_append]
  rintro ((h | h) | h)
  · exact hblank hbefore h
  · exact notMem_pyJoin (by decide) (fun field hfield => (hclean field hfield).noComma) h
  · exact hblank hafter h

theorem pySplit_printed (hne : fields ≠ []) (hclean : ∀ field ∈ fields, CleanField field)
    (h : PrintedAs fields text) : pySplit ':' (pyStrip text) = fields := by
  rw [pyStrip_printed hclean h]
  exact pySplit_pyJoin hne fun field hfield => (hclean field hfield).noColon

theorem isBlank_printed (hne : fields ≠ []) (hclean : ∀ field ∈ fields, CleanField field)
    (h : PrintedAs fields text) : isBlank text = false := by
  have hprinted : pyJoin ':' fields ≠ "" := pyJoin_ne_empty hne hclean
  refine Bool.eq_false_of_not_eq_true fun hblank => hprinted ?_
  rw [← pyStrip_printed hclean h, pyStrip_eq_empty.mpr hblank]

end

/-- A parser accepts exactly the texts whose entries have `colons` colons, and reads
back what is printed. -/
structure ExactGrammar {α : Type} (parse : String → Except PyError (List α))
    (fields : α → List String) (colons : ℕ) : Prop where
  rejects : ∀ raw, (∃ e, parse raw = .error e ∧ e.cls = .valueError) ↔
    ∃ chunk ∈ pySplit ',' raw, isBlank chunk = false ∧ chunk.toList.count ':' ≠ colons
  accepts : ∀ raw, (¬∃ chunk ∈ pySplit ',' raw,
      isBlank chunk = false ∧ chunk.toList.count ':' ≠ colons) →
    ∃ entries, parse raw = .ok entries ∧
      entries.map fields = (nonblankChunks raw).map fun chunk => pySplit ':' (pyStrip chunk)
  roundTrip : ∀ (entries : List α) (texts : List String),
    (∀ entry ∈ entries, ∀ field ∈ fields entry, CleanField field) →
    List.Forall₂ (fun entry text => PrintedAs (fields entry) text) entries texts →
    parse (pyJoin ',' texts) = .ok entries

namespace ReadsFields
variable {α : Type} {ofParts : List String → Option α} {fields : α → List String} {colons : ℕ}
variable {variableName expected : String} (hreads : ReadsFields ofParts fields colons)
include hreads

theorem parse_printed {entries : List α} {texts : List String}
    (hclean : ∀ entry ∈ entries, ∀ field ∈ fields entry, CleanField field)
    (hprinted : List.Forall₂ (fun entry text => PrintedAs (fields entry) text) entries texts) :
    parseEntries variableName expected ofParts (pyJoin ',' texts) = .ok entries := by
  have hread : List.Forall₂ (fun text entry => (',' ∉ text.toList ∧ isBlank text = false) ∧
      pySplit ':' (pyStrip text) = fields entry) texts entries := by
    refine List.Forall₂.flip (((List.forall₂_and_left _ _).mpr ⟨hclean, hprinted⟩).imp ?_)
    rintro entry text ⟨hentry, htext⟩
    have hne := hreads.fields_ne_nil entry
    exact ⟨⟨comma_notMem_printed hentry htext, isBlank_printed hne hentry htext⟩,
      pySplit_printed hne hentry htext⟩
  obtain ⟨htexts, hfields⟩ := (List.forall₂_and_left _ _).mp hread
  rw [hreads.parseEntries_ok_iff, chunks_eq, nonblankChunks_pyJoin htexts, List.map_map,
    Function.comp_def, ← List.forall₂_eq_eq_eq, List.forall₂_map_left_iff,
    List.forall₂_map_right_iff]
  exact hfields

theorem exactGrammar :
    ExactGrammar (parseEntries variableName expected ofParts) fields colons where
  rejects raw := by
    rw [← badChunk_iff]
    constructor
    · rintro ⟨e, he, -⟩
      exact (hreads.of_parseEntries_error he).2
    · rintro ⟨chunk, hchunk, hcount⟩
      cases hparse : parseEntries variableName expected ofParts raw with
      | ok entries => exact absurd (hreads.count_of_parseEntries_ok hparse chunk hchunk) hcount
      | error e => exact ⟨e, rfl, (hreads.of_parseEntries_error hparse).1⟩
  accepts raw hgood := by
    cases hparse : parseEntries variableName expected ofParts raw with
    | ok entries =>
      refine ⟨entries, rfl, ?_⟩
      rw [← hreads.parseEntries_ok_iff.mp hparse, chunks_eq, List.map_map, Function.comp_def]
    | error e =>
      have hbad := (hreads.of_parseEntries_error hparse).2
      exact absurd (badChunk_iff.mp hbad) hgood
  roundTrip entries texts hclean hprinted := hreads.parse_printed hclean hprinted

end ReadsFields

/-! ### Pairs and triangles -/

def PairConfig.fields (pair : PairConfig) : List String :=
  [pair.symbol, pair.exchangeBuy, pair.exchangeSell]

/-- In the order of the text: the exchange is last. -/
def TriangleConfig.fields (t : TriangleConfig) : List String :=
  [t.quote, t.bridge, t.target, t.exchange]

theorem PairConfig.readsFields : ReadsFields PairConfig.ofParts PairConfig.fields 2 where
  eq_some {parts pair} := by
    constructor
    · intro h
      unfold PairConfig.ofParts at h
      split at h
      · cases h
        rfl
      · cases h
    · rintro rfl
      rfl
  eq_none {parts} := by
    match parts with
    | [] | [_] | [_, _] => exact iff_of_true rfl (by simp)
    | [_, _, _] => exact iff_of_false (fun h => nomatch h) fun h => h rfl
    | _ :: _ :: _ :: _ :: rest => exact iff_of_true rfl (by simp)

theorem TriangleConfig.readsFields :
    ReadsFields TriangleConfig.ofParts TriangleConfig.fields 3 where
  eq_some := TriangleConfig.ofParts_eq_some
  eq_none {parts} := by
    match parts with
    | [] | [_] | [_, _] | [_, _, _] => exact iff_of_true rfl (by simp)
    | [_, _, _, _] => exact iff_of_false (fun h => nomatch h) fun h => h rfl
    | _ :: _ :: _ :: _ :: _ :: rest => exact iff_of_true rfl (by simp)

theorem monitored_exactGrammar :
    ExactGrammar parseMonitoredPairs PairConfig.fields 2 ∧
      ExactGrammar parseMonitoredTriangles TriangleConfig.fields 3 :=
  ⟨PairConfig.readsFields.exactGrammar, TriangleConfig.readsFields.exactGrammar⟩

end BimodalArbitrage
