import Mathlib.Data.List.Induction
import Mathlib.Data.String.Basic
import Reckoner.Proofs.Cutting

namespace Reckoner

/-- The place behind a text, by the bytes and line feeds in it and the characters since the last of
these. -/
def Cursor.behind (cursor : Cursor) (text : List Char) : Cursor where
  offset := cursor.offset + (String.ofList text).utf8ByteSize
  line := cursor.line + text.count '\n'
  column := if '\n' ∈ text then (text.reverse.takeWhile (· != '\n')).length + 1 else cursor.column + text.length

theorem Cursor.advance_eq_behind (cursor : Cursor) (text : List Char) : cursor.advance text = cursor.behind text := by
  induction text using List.reverseRecOn with
  | nil => rfl
  | append_singleton text c ih =>
    have step : cursor.advance (text ++ [c]) = (cursor.advance text).next c := List.foldl_append
    have size : (String.ofList (text ++ [c])).utf8ByteSize = (String.ofList text).utf8ByteSize + c.utf8Size := by
      simp only [String.utf8ByteSize_ofList, String.utf8Len_append, String.utf8Len_cons, String.utf8Len_nil,
        Nat.zero_add]
    rw [step, ih, Cursor.next, Cursor.behind, Cursor.behind, size]
    by_cases feed : c = '\n'
    · subst feed
      rw [if_pos rfl]
      simp [Nat.add_assoc]
    · rw [if_neg feed]
      have same : ('\n' ∈ text ++ [c]) = ('\n' ∈ text) := by simp [Ne.symm feed]
      simp only [same, List.reverse_append, List.reverse_singleton, List.singleton_append, List.count_append]
      split <;> simp [feed, Nat.add_assoc]

namespace Token

/-- The part of a text in which a token stands, for a text cut from a cursor on. -/
def slice (cursor : Cursor) (source : String) (t : PlacedToken) : String :=
  String.Pos.Raw.extract source ⟨t.start.offset - cursor.offset⟩ ⟨t.stop - cursor.offset⟩

/-- The spans of tokens follow on each other from a cursor to the end of a text. -/
structure Tiles (cursor : Cursor) (source : String) (placed : List PlacedToken) (last : Cursor) : Prop where
  nonempty : ∀ t ∈ placed, t.start.offset < t.stop
  adjacent : placed.map (·.start.offset) ++ [last.offset] = cursor.offset :: placed.map (·.stop)
  size : last.offset = cursor.offset + source.utf8ByteSize
  slices : String.join (placed.map (slice cursor source)) = source
  read : Cuts [] source.toList (placed.map fun t => (t.token, (slice cursor source t).toList))
  places {earlier later : List PlacedToken} {t : PlacedToken} : placed = earlier ++ t :: later →
    t.start = cursor.behind (String.join (earlier.map (slice cursor source))).toList
  finish : last = cursor.behind source.toList

/-- A text is cut as far as tokens are read, and the error stands behind the last of them. -/
def FailsBehind (cursor : Cursor) (source : String) (e : ScanError) (last : Cursor) : Prop :=
  ∃ pieces rest, Cuts rest source.toList pieces ∧ rest ≠ [] ∧ scan rest = none ∧
    (∀ pieces' rest', Cuts rest' source.toList pieces' → pieces' <+: pieces) ∧
    e.place = cursor.behind (spelling pieces) ∧ e.found = String.ofList (rest.take 20) ∧ last = e.place

variable {cursor : Cursor} {pieces : List (Token × List Char)}

/-- Tokens cut from texts with characters in them stand on at least one byte. -/
theorem place_nonempty (real : ∀ piece ∈ pieces, piece.2 ≠ []) :
    ∀ t ∈ place cursor pieces, t.start.offset < t.stop := by
  induction pieces generalizing cursor with
  | nil => exact nofun
  | cons first pieces ih =>
    obtain ⟨nonempty, real⟩ := List.forall_mem_cons.mp real
    refine List.forall_mem_cons.mpr ⟨?_, ih real⟩
    obtain ⟨c, text, spelled⟩ := List.exists_cons_of_ne_nil nonempty
    have positive := c.utf8Size_pos
    simp only [Cursor.advance_eq_behind, Cursor.behind, spelled, String.utf8ByteSize_ofList, String.utf8Len_cons]
    omega

/-- The offsets where the tokens begin and those where they end are one and the same list, but for the first and the
last offset. So there are no gaps and no overlaps. -/
theorem place_adjacent : (place cursor pieces).map (·.start.offset) ++ [(cursor.advance (spelling pieces)).offset] =
    cursor.offset :: (place cursor pieces).map (·.stop) := by
  induction pieces generalizing cursor with
  | nil => rfl
  | cons first pieces ih =>
    rw [place, List.map_cons, List.map_cons, List.cons_append, spelling_cons, Cursor.advance_append, ih]

/-- What stands in the span of a token is the text that the token has been cut from. -/
theorem map_slice_place {source : String} {before rest : List Char}
    (spelled : source.toList = before ++ spelling pieces ++ rest) :
    (place (cursor.advance before) pieces).map (slice cursor source) = pieces.map (String.ofList ·.2) := by
  induction pieces generalizing before with
  | nil => rfl
  | cons first pieces ih =>
    obtain ⟨token, piece⟩ := first
    have here : slice cursor source ⟨token, cursor.advance before, (cursor.advance before |>.advance piece).offset⟩ =
        String.ofList piece := by
      have start : (cursor.advance before).offset - cursor.offset = String.utf8Len before := by
        rw [Cursor.advance_eq_behind, Cursor.behind, String.utf8ByteSize_ofList, Nat.add_sub_cancel_left]
      have stop : (cursor.advance before |>.advance piece).offset - cursor.offset =
          String.utf8Len before + String.utf8Len piece := by
        rw [← Cursor.advance_append, Cursor.advance_eq_behind, Cursor.behind, String.utf8ByteSize_ofList,
          String.utf8Len_append, Nat.add_sub_cancel_left]
      have whole : source = String.ofList (before ++ piece ++ (spelling pieces ++ rest)) := by
        rw [← String.ofList_toList (s := source), spelled, spelling_cons]
        simp only [List.append_assoc]
      rw [slice, start, stop, whole]
      exact String.extract_of_valid before piece (spelling pieces ++ rest)
    have later := @ih (before ++ piece) (by rw [spelled, spelling_cons]; simp only [List.append_assoc])
    rw [Cursor.advance_append] at later
    rw [place, List.map_cons, List.map_cons, here, later]

/-- The tokens before a given one are those of a shorter text, and it begins where that text ends. -/
theorem place_split {earlier later : List PlacedToken} {t : PlacedToken}
    (split : place cursor pieces = earlier ++ t :: later) :
    ∃ front piece back, pieces = front ++ (t.token, piece) :: back ∧ earlier = place cursor front ∧
      t.start = cursor.advance (spelling front) := by
  induction pieces generalizing cursor earlier with
  | nil => exact absurd split (by simp [place])
  | cons first pieces ih =>
    cases earlier with
    | nil =>
      cases split
      exact ⟨[], first.2, pieces, rfl, rfl, rfl⟩
    | cons head earlier =>
      obtain ⟨rfl, behind⟩ := List.cons.inj split
      obtain ⟨front, piece, back, rfl, rfl, start⟩ := ih behind
      refine ⟨first :: front, piece, back, rfl, rfl, ?_⟩
      rw [start, spelling_cons, Cursor.advance_append]

theorem toList_join_pieces : (String.join (pieces.map (String.ofList ·.2))).toList = spelling pieces := by
  rw [String.toList_join, List.flatMap_map]
  simp only [String.toList_ofList]
  rfl

/-- The tiling is a property of the pieces alone. How they have been read does not matter. -/
theorem tiles_of_cuts {source : String} (cuts : Cuts [] source.toList pieces) :
    Tiles cursor source (place cursor pieces) (cursor.advance (spelling pieces)) := by
  have spelled : source.toList = spelling pieces := cuts.text_eq.trans (List.append_nil _)
  have slices : (place cursor pieces).map (slice cursor source) = pieces.map (String.ofList ·.2) :=
    @map_slice_place cursor pieces source [] [] (by rw [spelled, List.append_nil, List.nil_append])
  refine ⟨place_nonempty cuts.pieces_ne_nil, place_adjacent, ?_, ?_, ?_, fun split => ?_, ?_⟩
  · rw [← spelled, Cursor.advance_eq_behind, Cursor.behind, String.ofList_toList]
  · rw [slices, ← String.toList_inj, toList_join_pieces, spelled]
  · have texts : (place cursor pieces).map (fun t => (slice cursor source t).toList) = pieces.map (·.2) := by
      have texts := congrArg (List.map String.toList) slices
      simp only [List.map_map, Function.comp_def, String.toList_ofList] at texts
      exact texts
    rw [← List.zip_map', map_token_place, texts, List.zip_map', List.map_id']
    exact cuts
  · obtain ⟨front, piece, back, rfl, rfl, start⟩ := place_split split
    have before := @map_slice_place cursor front source [] (piece ++ spelling back)
      (by rw [spelled, spelling_append, spelling_cons, List.nil_append])
    change (place cursor front).map _ = _ at before
    rw [start, before, toList_join_pieces, Cursor.advance_eq_behind]
  · rw [← spelled, Cursor.advance_eq_behind]

/-- The spans tile the text from every cursor on, and where the text cannot be cut, the error and
the last cursor stand behind all of the tokens that are read. -/
theorem scanAll_tiles (cursor : Cursor) (source : String) :
    match scanAll cursor source with
    | (.ok placed, last) => Tiles cursor source placed last
    | (.error e, last) => FailsBehind cursor source e last := by
  obtain ⟨pieces, rest, cuts, ended⟩ := exists_cuts source.toList
  rw [scanAll, cuts.scanFrom_eq ended le_rfl]
  by_cases whole : rest = []
  · subst whole
    rw [if_pos rfl]
    exact tiles_of_cuts cuts
  · rw [if_neg whole]
    exact ⟨pieces, rest, cuts, whole, ended, fun _ _ other => cuts.longest ended other,
      Cursor.advance_eq_behind .., rfl, rfl⟩

end Token

end Reckoner
