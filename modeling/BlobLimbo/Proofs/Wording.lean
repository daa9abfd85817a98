import BlobLimbo.CommandLine.Run

/-!
# What an operator reads

Hashes, causes and summaries, written down character by character and apart from the functions that
print them. What is printed and logged is measured against these texts.
-/

namespace BlobLimbo

/-- A hash reads as two lower case digits for each of its bytes. -/
def FixedBytes.wording {n : Nat} (bytes : FixedBytes n) : String :=
  "0x" ++ String.ofList (bytes.toList.flatMap fun byte =>
    (Nat.toDigits 16 byte.toNat).leftpad 2 '0')

theorem FixedBytes.toHex_eq_wording {n : Nat} (bytes : FixedBytes n) :
    bytes.toHex = bytes.wording := by
  have hall : ∀ n < 256, Bytes.hexPair (.ofNat n) = (Nat.toDigits 16 n).leftpad 2 '0' := by
    decide +kernel
  have hpair : Bytes.hexPair = fun byte => (Nat.toDigits 16 byte.toNat).leftpad 2 '0' := by
    funext byte
    rw [← hall byte.toNat byte.toNat_lt, UInt8.ofNat_toNat]
  rw [toHex, Bytes.toHex, hpair, wording]

/-- What is wrong with bytes that are no entry. -/
def Rlp.DecodeError.wording : Rlp.DecodeError → String
  | .overflow => "overflow"
  | .leadingZero => "leading zero"
  | .inputTooShort => "input too short"
  | .nonCanonicalSingleByte => "non-canonical single byte"
  | .nonCanonicalSize => "non-canonical size"
  | .unexpectedLength => "unexpected length"
  | .unexpectedString => "unexpected string"
  | .unexpectedList => "unexpected list"
  | .listLengthMismatch expected got =>
    "unexpected list length (got " ++ toString got ++ ", expected " ++ toString expected ++ ")"

theorem Rlp.DecodeError.message_eq_wording (cause : Rlp.DecodeError) :
    cause.message = cause.wording := by
  cases cause <;> rfl

namespace Json

/-- Texts with a separator between them. -/
theorem separated_eq_intercalate (separator : List Char) (texts : List (List Char)) :
    separated separator texts = separator.intercalate texts := by
  fun_induction separated separator texts with
  | case1 => rfl
  | case2 text => rw [List.intercalate_singleton]
  | case3 text rest hne ih =>
    obtain ⟨next, rest, rfl⟩ := List.exists_cons_of_ne_nil hne
    rw [ih, List.intercalate_cons_cons, List.append_assoc]

/-- A break in front of every text is one in front of them all and one in each separator. -/
theorem append_intercalate_append (separator lead : List Char) {texts : List (List Char)}
    (hne : texts ≠ []) :
    lead ++ (separator ++ lead).intercalate texts =
      separator.intercalate (texts.map (lead ++ ·)) := by
  obtain ⟨text, rest, rfl⟩ := List.exists_cons_of_ne_nil hne
  induction rest generalizing text with
  | nil => simp
  | cons next rest ih =>
    rw [List.intercalate_cons_cons, List.map_cons, List.map_cons, List.intercalate_cons_cons,
      ← List.map_cons, ← ih next (List.cons_ne_nil _ _)]
    simp only [List.append_assoc]

/-- The items of an array, one by one. -/
theorem prettyItems_map {α : Type} (level : Nat) (f : α → Json) (items : List α) :
    prettyItems level (items.map f) = items.map fun item => (f item).pretty level := by
  induction items with
  | nil => rfl
  | cons item items ih => rw [List.map_cons, prettyItems, ih, List.map_cons]

end Json

namespace CommandLine.Summary

/-- A summary in lines of text. A block is aligned to the right of twelve columns. -/
def table (datadir : String) (summary : Summary) : List String :=
  ["--------------------------",
    "Path: " ++ datadir,
    "Tracked entries: " ++ toString summary.entries] ++
  summary.blocks.map (fun (block, entries) =>
    "  block " ++ String.ofList (List.replicate (12 - (toString block).length) ' ') ++
      toString block ++ ": " ++ toString entries) ++
  ["--------------------------"]

theorem lines_eq_table (datadir : String) (summary : Summary) :
    summary.lines datadir = summary.table datadir := by
  have hpadded : ∀ block : UInt64, padded block.toNat =
      String.ofList (List.replicate (12 - (toString block).length) ' ') ++ toString block := by
    intro block
    have hdigits : toString block = String.ofList (Nat.toDigits 10 block.toNat) := rfl
    rw [padded, List.leftpad, String.ofList_append, hdigits, String.length_ofList]
  simp only [lines, table, hpadded, String.append_assoc]
  rfl

/-- A block in a document. -/
def blockText (group : UInt64 × Nat) : String :=
  "    \x7b\n" ++
  "      \"block\": " ++ toString group.1 ++ ",\n" ++
  "      \"entries\": " ++ toString group.2 ++ "\n" ++
  "    \x7d"

/-- A summary as a document. Without blocks their brackets stand side by side. -/
def document (summary : Summary) : String :=
  "\x7b\n" ++
  "  \"entries\": " ++ toString summary.entries ++ ",\n" ++
  "  \"blocks\": [" ++
    (if summary.blocks = [] then ""
      else "\n" ++ ",\n".intercalate (summary.blocks.map blockText) ++ "\n  ") ++ "]\n" ++
  "\x7d"

/-- The document of a block. -/
def blockJson (group : UInt64 × Nat) : Json :=
  .object [("block", .number group.1.toNat), ("entries", .number group.2)]

theorem toList_blockText (group : UInt64 × Nat) :
    (blockText group).toList = "    ".toList ++ (blockJson group).pretty 2 := by
  have hblock : (toString group.1).toList = Nat.toDigits 10 group.1.toNat := Nat.toList_repr
  have hentries : (toString group.2).toList = Nat.toDigits 10 group.2 := Nat.toList_repr
  simp only [blockText, String.toList_append, hblock, hentries]
  simp [blockJson, Json.pretty, Json.prettyMembers, Json.block, Json.compact, Json.separated,
    Json.lineBreak, Json.quote, Json.escapeChar]

theorem toList_document (summary : Summary) :
    summary.document.toList = summary.toJson.pretty 0 := by
  have hentries : (toString summary.entries).toList = Nat.toDigits 10 summary.entries :=
    Nat.toList_repr
  by_cases hnone : summary.blocks = []
  · simp only [document, hnone, if_true, String.toList_append, hentries]
    simp [toJson, hnone, Json.pretty, Json.prettyMembers, Json.prettyItems, Json.block,
      Json.compact, Json.separated, Json.lineBreak, Json.quote, Json.escapeChar]
  · have hblocks : (summary.blocks.map blockText).map String.toList =
        (summary.blocks.map fun group => (blockJson group).pretty 2).map ("    ".toList ++ ·) := by
      rw [List.map_map, List.map_map]
      exact List.map_congr_left fun group _ => toList_blockText group
    have hjson : summary.toJson = .object [("entries", .number summary.entries),
        ("blocks", .array (summary.blocks.map blockJson))] := rfl
    simp only [document, if_neg hnone, String.toList_append, hentries, String.toList_intercalate,
      hblocks]
    rw [← Json.append_intercalate_append _ _ (mt List.map_eq_nil_iff.mp hnone), hjson]
    simp [hnone, Json.pretty, Json.prettyMembers, Json.prettyItems_map, Json.block,
      Json.separated_eq_intercalate, Json.compact, Json.lineBreak, Json.quote, Json.escapeChar]

theorem ofList_pretty_toJson (summary : Summary) :
    String.ofList (summary.toJson.pretty 0) = summary.document := by
  rw [← toList_document, String.ofList_toList]

/-- Two entries of one block. -/
example : String.ofList ((toJson ⟨2, [(9, 2)]⟩).pretty 0) =
    "\x7b\n  \"entries\": 2,\n  \"blocks\": [\n    \x7b\n      \"block\": 9,\n" ++
      "      \"entries\": 2\n    \x7d\n  ]\n\x7d" := by
  decide +kernel

end CommandLine.Summary

end BlobLimbo
