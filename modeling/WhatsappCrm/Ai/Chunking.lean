/-
Purpose: How a document of the knowledge base is split into the chunks retrieval ranks (`chunk-document.ts`).
-/
import WhatsappCrm.Ai.Contract
import WhatsappCrm.Lib.Json
import WhatsappCrm.Lib.Cuts
import Mathlib.Data.List.TakeWhile

namespace WhatsappCrm.Ai

variable (text : List Char)

def targetChars : Nat := 1200

def hardLimit : Nat := 2000

def overlapParagraphs : Nat := 1

/-- `length` of a text: its UTF-16 units. -/
def unitLength : Nat := (text.flatMap Json.units).length

/-- What is left when `PARAGRAPH_BREAK` matches at the start of a text. -/
def afterBreak : Option (List Char) :=
  match text with
  | [] => none
  | c :: rest =>
    let space := rest.takeWhile isSpace
    if c = '\n' ∧ '\n' ∈ space then
      some ((space.reverse.takeWhile (· ≠ '\n')).reverse ++ rest.dropWhile isSpace)
    else none

/-- `content.split(PARAGRAPH_BREAK)`, with what has been read of the present paragraph, the last character first. -/
def splitBreaks : Nat → List Char → List Char → List (List Char)
  | 0, begun, _ => [begun.reverse]
  | fuel + 1, begun, text =>
    match text with
    | [] => [begun.reverse]
    | c :: rest =>
      match afterBreak (c :: rest) with
      | some following => begun.reverse :: splitBreaks fuel [] following
      | none => splitBreaks fuel (c :: begun) rest

def splitSpaces : Nat → List Char → List (List Char)
  | 0, _ => []
  | fuel + 1, text =>
    text.takeWhile (!isSpace ·) ::
      match text.dropWhile (!isSpace ·) with
      | [] => []
      | rest => splitSpaces fuel (rest.dropWhile isSpace)

/-- One word of the loop of `splitLongParagraph`: the pieces that are complete, and the one that is not. -/
def addWord (state : List (List Char) × List Char) (word : List Char) : List (List Char) × List Char :=
  let (pieces, current) := state
  if current = [] then (pieces, word)
  else if targetChars < unitLength current + 1 + unitLength word then (pieces ++ [current], word)
  else (pieces, current ++ [' '] ++ word)

def splitLongParagraph (paragraph : List Char) : List (List Char) :=
  let (pieces, current) := (splitSpaces (paragraph.length + 1) paragraph).foldl addWord ([], [])
  if current = [] then pieces else pieces ++ [current]

def splitIntoParagraphs (content : List Char) : List (List Char) :=
  (((splitBreaks (content.length + 1) [] content).map trim).filter (· ≠ [])).flatMap fun paragraph =>
    if unitLength paragraph ≤ hardLimit then [paragraph] else splitLongParagraph paragraph

/-- `lengthOf`: separators excluded. -/
def lengthOf (paragraphs : List (List Char)) : Nat := (paragraphs.map unitLength).sum

def overlapFrom (emitted : List (List Char)) : List (List Char) :=
  if overlapParagraphs < emitted.length then emitted.drop (emitted.length - overlapParagraphs) else []

/-- The loop of `chunkDocument`, as the paragraphs of each chunk. -/
def pack (current : List (List Char)) : List (List Char) → List (List (List Char))
  | [] => if current = [] then [] else [current]
  | paragraph :: paragraphs =>
    if current ≠ [] ∧ targetChars < lengthOf current + unitLength paragraph then
      current :: pack (overlapFrom current ++ [paragraph]) paragraphs
    else pack (current ++ [paragraph]) paragraphs

def chunkDocument (content : String) : List String :=
  (pack [] (splitIntoParagraphs content.toList)).map fun paragraphs =>
    String.ofList (List.intercalate ['\n', '\n'] paragraphs)

open Cuts

theorem spaces_takeWhile : ∀ c ∈ text.takeWhile isSpace, isSpace c = true :=
  fun _ hc => List.mem_takeWhile_imp hc

theorem isSpace_false (h : (!isSpace c) = true) : isSpace c = false := by simpa using h

theorem words_dropWhile : words isSpace (text.dropWhile isSpace) = words isSpace text := by
  conv_rhs => rw [← List.takeWhile_append_dropWhile (p := isSpace) (l := text)]
  rw [words_breaks (spaces_takeWhile text)]

theorem words_trim : words isSpace (trim text) = words isSpace text := by
  have hend : words isSpace ((text.dropWhile isSpace).reverse.dropWhile isSpace).reverse =
      words isSpace (text.dropWhile isSpace) := by
    conv_rhs =>
      rw [← List.reverse_reverse (text.dropWhile isSpace),
        ← List.takeWhile_append_dropWhile (p := isSpace) (l := (text.dropWhile isSpace).reverse), List.reverse_append]
    rw [words_append_end]
    exact fun c hc => spaces_takeWhile _ c (List.mem_reverse.mp hc)
  rw [trim, hend, words_dropWhile]

theorem afterBreak_spaces {text : List Char} (h : afterBreak text = some following) :
    ∃ space, space ≠ [] ∧ (∀ c ∈ space, isSpace c = true) ∧ text = space ++ following := by
  cases text with
  | nil => cases h
  | cons c rest =>
    simp only [afterBreak, Option.ite_none_right_eq_some, Option.some.injEq] at h
    obtain ⟨⟨rfl, -⟩, rfl⟩ := h
    have hspace := List.takeWhile_append_dropWhile (p := (· ≠ '\n')) (l := (rest.takeWhile isSpace).reverse)
    refine ⟨'\n' :: ((rest.takeWhile isSpace).reverse.dropWhile (· ≠ '\n')).reverse, nofun, ?_, ?_⟩
    · intro d hd
      rcases List.mem_cons.mp hd with rfl | hd
      · decide
      · exact spaces_takeWhile rest d (List.mem_reverse.mp (List.dropWhile_sublist _ |>.mem (List.mem_reverse.mp hd)))
    · rw [List.cons_append, ← List.append_assoc, ← List.reverse_append, hspace, List.reverse_reverse,
        List.takeWhile_append_dropWhile]

theorem words_splitBreaks {text : List Char} (hfuel : text.length < fuel) :
    (splitBreaks fuel begun text).flatMap (words isSpace) = words isSpace (begun.reverse ++ text) := by
  induction fuel generalizing begun text with
  | zero => cases hfuel
  | succ fuel ih =>
    cases text with
    | nil => simp [splitBreaks]
    | cons c rest =>
      rw [splitBreaks]
      cases hbreak : afterBreak (c :: rest) with
      | none =>
        rw [ih (Nat.lt_of_succ_lt_succ hfuel), List.reverse_cons, List.append_assoc, List.singleton_append]
      | some =>
        obtain ⟨space, hne, hspace, htext⟩ := afterBreak_spaces hbreak
        have hpos := List.length_pos_iff.mpr hne
        have hlength := congrArg List.length htext
        rw [List.length_append] at hlength
        rw [List.flatMap_cons, ih (by omega), htext, words_append_breaks hne hspace]
        rfl

def Unbroken : Prop := ∀ c ∈ text, isSpace c = false

structure Fits (paragraph : List Char) : Prop where
  words : words isSpace paragraph ≠ []
  size : unitLength paragraph ≤ hardLimit ∨ Unbroken paragraph

theorem Unbroken.fits (hne : word ≠ []) (h : Unbroken word) : Fits word where
  words := by simp [words_unbroken hne h]
  size := .inr h

theorem splitSpaces_unbroken {text : List Char} : ∀ word ∈ splitSpaces fuel text, Unbroken word := by
  induction fuel generalizing text with
  | zero => nofun
  | succ fuel ih =>
    intro word hword
    rw [splitSpaces] at hword
    rcases List.mem_cons.mp hword with rfl | hword
    · exact fun c hc => isSpace_false (List.mem_takeWhile_imp (p := (!isSpace ·)) hc)
    · split at hword
      · cases hword
      · exact ih word hword

theorem words_splitSpaces {text : List Char} (hfuel : text.length < fuel) :
    (splitSpaces fuel text).flatMap (words isSpace) = words isSpace text := by
  induction fuel generalizing text with
  | zero => cases hfuel
  | succ fuel ih =>
    have htext := List.takeWhile_append_dropWhile (p := (!isSpace ·)) (l := text)
    rw [splitSpaces, List.flatMap_cons]
    split
    · rename_i hend
      rw [hend, List.append_nil] at htext
      rw [htext, List.flatMap_nil, List.append_nil]
    · rename_i hrest
      obtain ⟨c, rest, hcons⟩ := List.exists_cons_of_ne_nil hrest
      have hspace : isSpace c = true := by
        have := List.head_dropWhile_not (!isSpace ·) hrest
        simpa [hcons] using this
      have hlength := congrArg List.length htext
      have hshort := (List.dropWhile_sublist isSpace (l := rest)).length_le
      rw [hcons] at htext hlength ⊢
      rw [List.length_append, List.length_cons] at hlength
      rw [List.dropWhile_cons_of_pos hspace, ih (by omega), words_dropWhile, ← words_append_break hspace, htext]

theorem unitLength_append (x y : List Char) : unitLength (x ++ y) = unitLength x + unitLength y := by
  simp [unitLength]

/-- The loop of `splitLongParagraph` after these words: none is lost, and the pieces fit. -/
structure Pieced (read : List (List Char)) (state : List (List Char) × List Char) : Prop where
  kept : state.1.flatMap (words isSpace) ++ words isSpace state.2 = read.flatMap (words isSpace)
  complete : ∀ piece ∈ state.1, Fits piece
  current : state.2 ≠ [] → Fits state.2

theorem Pieced.addWord {read : List (List Char)} (h : Pieced read state)
    (hword : Unbroken word) : Pieced (read ++ [word]) (addWord state word) := by
  obtain ⟨pieces, current⟩ := state
  have hread : (read ++ [word]).flatMap (words isSpace) =
      pieces.flatMap (words isSpace) ++ (words isSpace current ++ words isSpace word) := by
    rw [List.flatMap_append, List.flatMap_singleton, ← h.kept, List.append_assoc]
  unfold Ai.addWord
  dsimp only
  by_cases hcurrent : current = []
  · rw [if_pos hcurrent]
    rw [hcurrent, words_nil, List.nil_append] at hread
    exact ⟨hread.symm, h.complete, hword.fits⟩
  rw [if_neg hcurrent]
  split
  · refine ⟨?_, ?_, hword.fits⟩
    · rw [hread, List.flatMap_append, List.flatMap_singleton, List.append_assoc]
    · intro piece hpiece
      rcases Table.mem_snoc.mp hpiece with hpiece | rfl
      · exact h.complete piece hpiece
      · exact h.current hcurrent
  · rename_i hroom
    have hjoin : words isSpace (current ++ [' '] ++ word) = words isSpace current ++ words isSpace word := by
      rw [List.append_assoc, List.singleton_append, words_append_break (by decide)]
    refine ⟨?_, h.complete, fun _ => ⟨?_, .inl ?_⟩⟩
    · rw [hread, hjoin]
    · rw [hjoin]
      exact fun hnil => (h.current hcurrent).words (List.append_eq_nil_iff.mp hnil).1
    · have hone : unitLength [' '] = 1 := by decide
      rw [unitLength_append, unitLength_append, hone]
      simp only [targetChars, hardLimit] at hroom ⊢
      omega

theorem pieced_foldl {read : List (List Char)} (htexts : ∀ word ∈ texts, Unbroken word) (h : Pieced read state) :
    Pieced (read ++ texts) (texts.foldl addWord state) := by
  induction texts generalizing read state with
  | nil => simpa using h
  | cons word texts ih =>
    have hnext := ih (fun w hw => htexts w (List.mem_cons_of_mem _ hw)) (h.addWord (htexts word List.mem_cons_self))
    rwa [List.append_assoc, List.singleton_append] at hnext

theorem splitLongParagraph_spec (paragraph : List Char) :
    (splitLongParagraph paragraph).flatMap (words isSpace) = words isSpace paragraph ∧
      ∀ piece ∈ splitLongParagraph paragraph, Fits piece := by
  have hstart : Pieced [] ([], []) := ⟨rfl, nofun, fun h => absurd rfl h⟩
  have hfold := pieced_foldl (@splitSpaces_unbroken (paragraph.length + 1) paragraph) hstart
  obtain ⟨hkept, hcomplete, hcurrent⟩ := hfold
  rw [List.nil_append, words_splitSpaces (Nat.lt_succ_self _)] at hkept
  rw [splitLongParagraph]
  dsimp only
  split
  · rename_i hend
    rw [hend, words_nil, List.append_nil] at hkept
    exact ⟨hkept, hcomplete⟩
  · rename_i hend
    refine ⟨by rw [List.flatMap_append, List.flatMap_singleton, hkept], fun piece hpiece => ?_⟩
    rcases Table.mem_snoc.mp hpiece with hpiece | rfl
    · exact hcomplete piece hpiece
    · exact hcurrent hend

theorem words_trim_ne_nil {text : List Char} (h : trim text ≠ []) : words isSpace (trim text) ≠ [] := by
  have hfront : text.dropWhile isSpace ≠ [] := by
    intro hnil
    rw [trim, hnil] at h
    exact h rfl
  rw [words_trim, ← words_dropWhile]
  exact words_ne_nil (List.head_mem hfront) (List.head_dropWhile_not isSpace hfront)

theorem splitIntoParagraphs_spec (content : List Char) :
    (splitIntoParagraphs content).flatMap (words isSpace) = words isSpace content ∧
      ∀ paragraph ∈ splitIntoParagraphs content, Fits paragraph := by
  constructor
  · have hsplit := @words_splitBreaks _ [] _ (Nat.lt_succ_self content.length)
    rw [List.reverse_nil, List.nil_append] at hsplit
    rw [splitIntoParagraphs, ← hsplit]
    induction splitBreaks (content.length + 1) [] content with
    | nil => rfl
    | cons text texts ih =>
      rw [List.map_cons, List.filter_cons, List.flatMap_cons, ← ih, ← words_trim text]
      split
      · rw [List.flatMap_cons, List.flatMap_append]
        congr 1
        split
        · rw [List.flatMap_singleton]
        · exact (splitLongParagraph_spec _).1
      · rename_i hempty
        rw [show trim text = [] by simpa using hempty, words_nil, List.nil_append]
  · intro paragraph hparagraph
    obtain ⟨text, htext, hin⟩ := List.mem_flatMap.mp hparagraph
    split at hin
    · rename_i hsize
      obtain ⟨hmem, hne⟩ := List.mem_filter.mp htext
      obtain ⟨source, -, rfl⟩ := List.mem_map.mp hmem
      rw [List.mem_singleton.mp hin]
      exact ⟨words_trim_ne_nil (by simpa using hne), .inl hsize⟩
    · exact (splitLongParagraph_spec text).2 paragraph hin

def Small (paragraphs : List (List Char)) : Prop :=
  lengthOf paragraphs ≤ hardLimit ∨ ∃ word, paragraphs = [word] ∧ Unbroken word

theorem Fits.small (h : Fits paragraph) : Small [paragraph] := by
  rcases h.size with hsize | hword
  · exact .inl (by simpa [lengthOf] using hsize)
  · exact .inr ⟨paragraph, rfl, hword⟩

theorem lengthOf_append (xs ys : List (List Char)) : lengthOf (xs ++ ys) = lengthOf xs + lengthOf ys := by
  simp [lengthOf]

theorem lengthOf_drop_le (k : Nat) (xs : List (List Char)) : lengthOf (xs.drop k) ≤ lengthOf xs := by
  conv_rhs => rw [← List.take_append_drop k xs, lengthOf_append]
  exact Nat.le_add_left _ _

theorem overlapFrom_drop {before : List (List Char)} (hfirst : first < before.length) :
    ∃ carried, overlapFrom (before.drop first) = before.drop carried ∧ carried ≤ before.length ∧
      before.length ≤ carried + 1 := by
  rw [overlapFrom, List.length_drop]
  split
  · refine ⟨before.length - 1, ?_, by omega, by omega⟩
    rw [List.drop_drop]
    congr 1
    simp only [overlapParagraphs] at *
    omega
  · exact ⟨before.length, by simp, Nat.le_refl _, by omega⟩

/-- The loop of `chunkDocument`, with the paragraphs it has read: those from `first` are the open chunk, and those
    from `fresh` are its own. -/
theorem pack_tiles {before : List (List Char)} {fresh : Nat} (hrange : first ≤ fresh ∧ fresh ≤ first + 1)
    (hopen : fresh < before.length ∧ Small (before.drop fresh) ∨ first = before.length ∧ fresh = before.length)
    (hrest : ∀ paragraph ∈ rest, Fits paragraph) : ∃ cuts, Cut.Tiles fresh cuts (before ++ rest).length ∧
      pack (before.drop first) rest = cuts.map (·.elements (before ++ rest)) ∧
      ∀ c ∈ cuts, Small (c.own (before ++ rest)) := by
  induction rest generalizing before first fresh with
  | nil =>
    rw [List.append_nil]
    rcases hopen with ⟨hfresh, hsmall⟩ | ⟨rfl, rfl⟩
    · have hne : before.drop first ≠ [] := by
        rw [ne_eq, List.drop_eq_nil_iff]
        omega
      refine ⟨[⟨first, fresh, before.length⟩], ⟨⟨rfl, hfresh⟩, hrange, rfl⟩, ?_, ?_⟩
      · simp [pack, hne, Cut.elements]
      · simpa [Cut.own] using hsmall
    · exact ⟨[], rfl, by simp [pack], List.forall_mem_nil _⟩
  | cons paragraph rest ih =>
    have hfits := hrest paragraph List.mem_cons_self
    have hothers := fun q hq => hrest q (List.mem_cons_of_mem paragraph hq)
    have hnext : before ++ paragraph :: rest = (before ++ [paragraph]) ++ rest := by simp
    have hlength : (before ++ [paragraph]).length = before.length + 1 := by simp
    rw [pack]
    split
    · -- the open chunk is closed, and its last paragraph is carried
      rename_i hclose
      rcases hopen with ⟨hfresh, hsmall⟩ | ⟨hfirst, -⟩
      · obtain ⟨carried, hoverlap, hle, hge⟩ := @overlapFrom_drop first before (by omega)
        have hown : Small ((before ++ [paragraph]).drop before.length) := by
          rw [List.drop_left]
          exact hfits.small
        obtain ⟨cuts, htiles, hpack, hcuts⟩ :=
          ih ⟨hle, hge⟩ (.inl ⟨by omega, hown⟩) hothers
        rw [← hnext] at htiles hpack hcuts
        rw [List.drop_append_of_le_length hle] at hpack
        have htake : (before ++ paragraph :: rest).take before.length = before := List.take_left
        refine ⟨⟨first, fresh, before.length⟩ :: cuts, ⟨⟨rfl, hfresh⟩, hrange, htiles⟩, ?_, ?_⟩
        · rw [hoverlap, hpack, List.map_cons, Cut.elements, htake]
        · intro c hc
          rcases List.mem_cons.mp hc with rfl | hc
          · rw [Cut.own, htake]
            exact hsmall
          · exact hcuts c hc
      · exact absurd (by rw [hfirst, List.drop_length]) hclose.1
    · rename_i hroom
      have hfirst : first ≤ before.length := by omega
      have hfresh : fresh ≤ before.length := by omega
      have hown : Small ((before ++ [paragraph]).drop fresh) := by
        rw [List.drop_append_of_le_length hfresh]
        rcases hopen with ⟨hlt, -⟩ | ⟨-, rfl⟩
        · have hne : before.drop first ≠ [] := by
            rw [ne_eq, List.drop_eq_nil_iff]
            omega
          have htotal : lengthOf (before.drop first) + unitLength paragraph ≤ targetChars :=
            Nat.le_of_not_lt fun h => hroom ⟨hne, h⟩
          have hdrop := lengthOf_drop_le (fresh - first) (before.drop first)
          rw [List.drop_drop, Nat.add_sub_cancel' hrange.1] at hdrop
          have hone : lengthOf [paragraph] = unitLength paragraph := by simp [lengthOf]
          refine .inl ?_
          rw [lengthOf_append, hone]
          simp only [targetChars, hardLimit] at htotal ⊢
          omega
        · rw [List.drop_length]
          exact hfits.small
      obtain ⟨cuts, htiles, hpack, hcuts⟩ := ih hrange (.inl ⟨by omega, hown⟩) hothers
      rw [← hnext] at htiles hpack hcuts
      rw [List.drop_append_of_le_length hfirst] at hpack
      exact ⟨cuts, htiles, hpack, hcuts⟩

/-- The text of a chunk, and what stands in it after the carried paragraph. -/
def joined (paragraphs : List (List Char)) : List Char := List.intercalate ['\n', '\n'] paragraphs

theorem words_joined (paragraphs : List (List Char)) :
    words isSpace (joined paragraphs) = paragraphs.flatMap (words isSpace) := by
  have hbreak : isSpace '\n' = true := by decide
  exact words_intercalate (List.cons_ne_nil _ _) (by simp [hbreak]) paragraphs

/-- The chunks of a document are these ranges of its paragraphs. A range shares at most one with the range before. -/
structure Covers (content : String) (cuts : List Cut) : Prop where
  emitted : chunkDocument content =
    cuts.map fun c => String.ofList (joined (c.elements (splitIntoParagraphs content.toList)))
  in_order : cuts.flatMap (·.own (splitIntoParagraphs content.toList)) = splitIntoParagraphs content.toList
  every_word : cuts.flatMap (fun c => words isSpace (joined (c.own (splitIntoParagraphs content.toList)))) =
    words isSpace content.toList
  something_new : ∀ c ∈ cuts, words isSpace (joined (c.own (splitIntoParagraphs content.toList))) ≠ []
  twice : ∀ k, (cuts.filter (·.Holds k)).length ≤ 2
  tiles : Cut.Tiles 0 cuts (splitIntoParagraphs content.toList).length
  small : ∀ c ∈ cuts, Small (c.own (splitIntoParagraphs content.toList))

/-- Every document is covered by its chunks, in order and without loss. Its own paragraphs keep a chunk to the hard
    limit, the separators between them not counted, unless it is a single word. -/
theorem chunks_cover (content : String) : ∃ cuts, Covers content cuts := by
  obtain ⟨hwords, hfits⟩ := splitIntoParagraphs_spec content.toList
  obtain ⟨cuts, htiles, hpack, hsmall⟩ :=
    @pack_tiles 0 _ [] 0 (by omega) (.inr ⟨rfl, rfl⟩) hfits
  rw [List.nil_append] at htiles hpack hsmall
  rw [List.drop_nil] at hpack
  have hreach := htiles.reach
  have hown := htiles.flatMap_own (splitIntoParagraphs content.toList)
  rw [List.take_length, List.drop_zero] at hown
  refine ⟨cuts, ?_, hown, ?_, ?_, htiles.twice, htiles, hsmall⟩
  · rw [chunkDocument, hpack, List.map_map]
    rfl
  · conv_rhs => rw [← hwords, ← hown, List.flatMap_assoc]
    simp only [words_joined]
  · intro c hc
    obtain ⟨⟨hfresh, hstop⟩, -⟩ := hreach c hc
    obtain ⟨paragraph, hparagraph⟩ := List.exists_mem_of_ne_nil _ (Cut.own_ne_nil hfresh hstop)
    rw [words_joined]
    intro hnone
    exact (hfits paragraph (c.own_subset _ hparagraph)).words (List.flatMap_eq_nil_iff.mp hnone paragraph hparagraph)

theorem pack_one (hne : current ≠ [])
    (h : lengthOf (current ++ rest) ≤ targetChars) : pack current rest = [current ++ rest] := by
  induction rest generalizing current with
  | nil => simp [pack, hne]
  | cons paragraph rest ih =>
    have hroom : ¬ (current ≠ [] ∧ targetChars < lengthOf current + unitLength paragraph) := by
      intro hclose
      rw [lengthOf_append] at h
      simp only [lengthOf, List.map_cons, List.sum_cons] at h hclose
      omega
    rw [pack, if_neg hroom, ih (by simp) (by simpa using h)]
    simp

/-- Many short paragraphs make a chunk above the hard limit: the separators are not counted. -/
theorem separators_exceed_limit :
    let paragraphs := List.replicate 501 ['a', 'b']
    chunkDocument (String.ofList (joined paragraphs)) = [String.ofList (joined paragraphs)] ∧
      hardLimit < unitLength (joined paragraphs) ∧ ¬ Unbroken (joined paragraphs) := by
  have hsplit : splitIntoParagraphs (joined (List.replicate 501 ['a', 'b'])) = List.replicate 501 ['a', 'b'] := by
    decide +kernel
  refine ⟨?_, by decide +kernel, fun h => absurd (h '\n' (by decide +kernel)) (by decide)⟩
  have hshort : lengthOf ([['a', 'b']] ++ List.replicate 500 ['a', 'b']) ≤ targetChars := by decide +kernel
  have hpack : pack [] (['a', 'b'] :: List.replicate 500 ['a', 'b']) =
      [[['a', 'b']] ++ List.replicate 500 ['a', 'b']] := by
    rw [pack, if_neg (by simp), List.nil_append, pack_one (List.cons_ne_nil _ _) hshort]
  rw [chunkDocument, String.toList_ofList, hsplit, List.replicate_succ, hpack, List.map_singleton]
  rfl

end WhatsappCrm.Ai
