/-!
# Cutting and joining texts

Texts are lists of characters here.  A search for a separator looks at each place in turn and, once
it has found one, passes over its characters; the number still to pass is a counter, so that all
functions below are structural recursions on the text.
-/

namespace MetricPath.Text

/-! ## Ends -/

theorem length_dropWhile_le (p : Char → Bool) (cs : List Char) :
    (cs.dropWhile p).length ≤ cs.length := by
  have h := congrArg List.length (List.takeWhile_append_dropWhile (p := p) (l := cs))
  rw [List.length_append] at h
  omega

/-- The text after the given beginning, if it begins so. -/
def dropBeginning? : List Char → List Char → Option (List Char)
  | [], cs => some cs
  | _ :: _, [] => none
  | p :: ps, c :: cs => if p = c then dropBeginning? ps cs else none

/-- Whether the text begins with the given one. -/
def beginsWith (start cs : List Char) : Bool := (dropBeginning? start cs).isSome

/-- Whether the text ends with the given one. -/
def endsWith (ending cs : List Char) : Bool := beginsWith ending.reverse cs.reverse

/-- The text without the characters of a class at its beginning. -/
def trimStart (p : Char → Bool) (cs : List Char) : List Char := cs.dropWhile p

/-- The text without the characters of a class at its end. -/
def trimEnd (p : Char → Bool) (cs : List Char) : List Char := (cs.reverse.dropWhile p).reverse

/-- The text without the characters of a class at both ends. -/
def trim (p : Char → Bool) (cs : List Char) : List Char := trimEnd p (trimStart p cs)

theorem dropBeginning?_length {start cs rest : List Char}
    (h : dropBeginning? start cs = some rest) : rest.length + start.length = cs.length := by
  induction start generalizing cs with
  | nil => simp [dropBeginning?] at h; simp [h]
  | cons p ps ih =>
    cases cs with
    | nil => simp [dropBeginning?] at h
    | cons c cs =>
      simp only [dropBeginning?] at h
      split at h
      · have := ih h
        simp only [List.length_cons]; omega
      · exact absurd h (by simp)

/-! ## Splitting -/

/-- Put a character in front of the first piece. -/
def consHead (c : Char) : List (List Char) → List (List Char)
  | [] => [[c]]
  | p :: ps => (c :: p) :: ps

/-- The pieces between the occurrences of one character. -/
def splitChar (sep : Char) : List Char → List (List Char)
  | [] => [[]]
  | c :: cs => if c = sep then [] :: splitChar sep cs else consHead c (splitChar sep cs)

/-- The pieces between the occurrences of a separator, of which `skip` characters are still to be
passed over. -/
def splitOnFrom (sep : List Char) : Nat → List Char → List (List Char)
  | _, [] => [[]]
  | skip + 1, _ :: cs => splitOnFrom sep skip cs
  | 0, c :: cs =>
    if beginsWith sep (c :: cs) then [] :: splitOnFrom sep (sep.length - 1) cs
    else consHead c (splitOnFrom sep 0 cs)

/-- The pieces between the occurrences of a separator that is not empty, found from the left and
without overlap. -/
def splitOn (sep cs : List Char) : List (List Char) := splitOnFrom sep 0 cs

/-- The texts, with a separator between neighbours. -/
def join (sep : List Char) : List (List Char) → List Char
  | [] => []
  | [p] => p
  | p :: ps => p ++ sep ++ join sep ps

/-- Every occurrence of `old` replaced by `new`.  The empty text occurs before every character and
at the end. -/
def replaceAll (old new cs : List Char) : List Char :=
  match old with
  | [] => new ++ cs.flatMap fun c => c :: new
  | _ :: _ => join new (splitOn old cs)

/-- The text before the first occurrence of `sep`, and the text after it. -/
def cutAt? (sep : List Char) : List Char → Option (List Char × List Char)
  | [] => if sep.isEmpty then some ([], []) else none
  | c :: cs =>
    match dropBeginning? sep (c :: cs) with
    | some rest => some ([], rest)
    | none => (cutAt? sep cs).map fun (before, after) => (c :: before, after)

theorem cutAt?_length {sep cs before after : List Char}
    (h : cutAt? sep cs = some (before, after)) :
    after.length + sep.length + before.length = cs.length := by
  induction cs generalizing before with
  | nil =>
    simp only [cutAt?] at h
    split at h
    · rename_i empty
      have : sep = [] := by simpa using empty
      simp only [Option.some.injEq, Prod.mk.injEq] at h
      simp [← h.1, ← h.2, this]
    · exact absurd h (by simp)
  | cons c cs ih =>
    simp only [cutAt?] at h
    split at h
    · rename_i rest found
      simp only [Option.some.injEq, Prod.mk.injEq] at h
      have := dropBeginning?_length found
      simp only [← h.1, ← h.2, List.length_nil, List.length_cons] at this ⊢
      omega
    · simp only [Option.map_eq_some_iff, Prod.mk.injEq] at h
      obtain ⟨⟨b, a⟩, found, hb, rfl⟩ := h
      have := ih found
      simp only [← hb, List.length_cons] at this ⊢
      omega

/-! ## Lines -/

/-- A line without one carriage return at its end. -/
def dropReturn (line : List Char) : List Char :=
  match line.reverse with
  | '\r' :: rest => rest.reverse
  | _ => line

/-- The lines of a text: a newline ends a line, a carriage return before it belongs to the ending,
and nothing follows the last newline. -/
def lines (cs : List Char) : List (List Char) :=
  let pieces := splitChar '\n' cs
  let ended := pieces.dropLast.map dropReturn
  match pieces.getLast? with
  | some [] => ended
  | some last => ended ++ [last]
  | none => ended

end MetricPath.Text
