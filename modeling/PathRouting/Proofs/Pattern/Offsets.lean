import Mathlib.Data.List.TakeWhile
import PathRouting.Pattern.Reading
import PathRouting.Proofs.Pattern.Lexing
import PathRouting.Proofs.Text.Boundaries

/-!
# Reading a pattern by its bytes

A reader that walks over the bytes of a pattern and cuts literals and names out of it by their
offsets, with a fault where the pattern may not be cut.  It stops at special bytes only, and these
are characters of their own; so it never faults, and it reads what the lexemes of the pattern are
gathered into.
-/

namespace PathRouting.Pattern

open PathRouting.Text

/-! ## The reader -/

/-- An element as the reader builds it, where nothing keeps a group from holding groups. -/
inductive Node where
  | literal (text : String)
  | token (name : String) (optional : Bool)
  | group (body : List Node)

structure Reader where
  top : List Node
  /-- The group that is open: where it opens and what it holds. -/
  opened : Option (Nat × List Node)

namespace Reader

def push (reader : Reader) (node : Node) : Reader :=
  match reader.opened with
  | some (start, body) => { reader with opened := some (start, body ++ [node]) }
  | none => { reader with top := reader.top ++ [node] }

/-- Puts in the text from one byte of the pattern to another, if there is any. -/
def pushLiteral? (reader : Reader) (pattern : String) (start stop : Nat) : Option Reader :=
  if start < stop then (slice? pattern start stop).map fun text => reader.push (.literal text)
  else some reader

/-- Reads the pattern from byte `i` on, where the text from byte `literalStart` on has not been put
in yet.  No result at all is a fault. -/
def run? (pattern : String) (literalStart i : Nat) (reader : Reader) :
    Option (Except PatternError (List Node)) :=
  let bytes := utf8 pattern
  match _found : bytes[i]? with
  | none =>
      match reader.opened with
      | some (start, _) => some (.error (.unbalanced pattern start))
      | none => (reader.pushLiteral? pattern literalStart bytes.length).map (.ok ·.top)
  | some b =>
      if b = ':'.toUInt8 ∧ bytes[i + 1]?.any isWordByte = true then
        let nameStop := i + 1 + ((bytes.drop (i + 1)).takeWhile isWordByte).length
        match reader.pushLiteral? pattern literalStart i, slice? pattern (i + 1) nameStop with
        | some reader, some name =>
            let optional := bytes[nameStop]? == some '?'.toUInt8
            let markStop := nameStop + optional.toNat
            let stop := markStop + (bytes[markStop]? == some '/'.toUInt8).toNat
            run? pattern stop stop (reader.push (.token name optional))
        | _, _ => none
      else if b = '('.toUInt8 then
        match reader.opened with
        | some _ => some (.error (.nestedGroup pattern i))
        | none =>
            match reader.pushLiteral? pattern literalStart i with
            | none => none
            | some reader => run? pattern (i + 1) (i + 1) { reader with opened := some (i, []) }
      else if b = ')'.toUInt8 then
        match reader.pushLiteral? pattern literalStart i with
        | none => none
        | some reader =>
            match reader.opened with
            | none => some (.error (.unbalanced pattern i))
            | some (start, body) =>
                if body.isEmpty then some (.error (.emptyGroup pattern start))
                else
                  let stop := i + 1 + (bytes[i + 1]? == some '?'.toUInt8).toNat
                  run? pattern stop stop ⟨reader.top ++ [.group body], none⟩
      else run? pattern literalStart (i + 1) reader
termination_by (utf8 pattern).length - i
decreasing_by
  all_goals
    have inside : i < (utf8 pattern).length := (List.getElem?_eq_some_iff.mp _found).1
    omega

end Reader

/-! ## What the reader has gathered -/

def Node.ofPiece : Piece → Node
  | .literal text => .literal text
  | .token name optional => .token name optional

def Node.ofSegment : Segment → Node
  | .piece p => .ofPiece p
  | .group body => .group (body.map .ofPiece)

/-- What has been gathered so far: the segments that are complete and the group that is open. -/
structure Progress where
  top : List Segment
  group : Option OpenGroup

namespace Progress

/-- The reader that has got as far. -/
def reader (progress : Progress) : Reader :=
  ⟨progress.top.map .ofSegment, progress.group.map fun g => (g.start, g.body.map .ofPiece)⟩

def add (progress : Progress) (p : Piece) : Progress :=
  match progress.group with
  | some g => { progress with group := some { g with body := g.body ++ [p] } }
  | none => { progress with top := progress.top ++ [.piece p] }

/-- Adds characters as a literal, if there are any. -/
def addText (progress : Progress) : List Char → Progress
  | [] => progress
  | c :: chars => progress.add (.literal (String.ofList (c :: chars)))

/-- What comes of the lexemes that follow. -/
def finish (progress : Progress) (pattern : String) (lexemes : List Lexeme) :
    Except PatternError (List Segment) :=
  (gather pattern progress.group lexemes).map (progress.top ++ ·)

section

variable {progress : Progress} {pattern : String} {lexemes : List Lexeme} {start : Nat}

theorem reader_add (progress : Progress) (p : Piece) :
    (progress.add p).reader = progress.reader.push (.ofPiece p) := by
  obtain ⟨top, group⟩ := progress
  cases group with
  | none => simp [add, reader, Reader.push, Node.ofSegment]
  | some g => simp [add, reader, Reader.push]

theorem finish_text (chars : List Char) :
    progress.finish pattern (⟨start, .text chars⟩ :: lexemes) =
      (progress.add (.literal (String.ofList chars))).finish pattern lexemes := by
  obtain ⟨top, group⟩ := progress
  cases group with
  | none =>
    simp only [finish, add, gather]
    cases gather pattern none lexemes <;> simp [bind, Except.bind, pure, Except.pure, Except.map]
  | some g => simp only [finish, add, gather]

theorem finish_token (name : List Char) (optional : Bool) :
    progress.finish pattern (⟨start, .token name optional⟩ :: lexemes) =
      (progress.add (.token (String.ofList name) optional)).finish pattern lexemes := by
  obtain ⟨top, group⟩ := progress
  cases group with
  | none =>
    simp only [finish, add, gather]
    cases gather pattern none lexemes <;> simp [bind, Except.bind, pure, Except.pure, Except.map]
  | some g => simp only [finish, add, gather]

theorem finish_opening (top : List Segment) :
    finish ⟨top, none⟩ pattern (⟨start, .opening⟩ :: lexemes) =
      finish ⟨top, some ⟨start, []⟩⟩ pattern lexemes := by
  simp only [finish, gather]

theorem finish_closing (top : List Segment) (opened : Nat) (p : Piece) (body : List Piece) :
    finish ⟨top, some ⟨opened, p :: body⟩⟩ pattern (⟨start, .closing⟩ :: lexemes) =
      finish ⟨top ++ [.group (p :: body)], none⟩ pattern lexemes := by
  simp only [finish, gather]
  cases gather pattern none lexemes <;> simp [bind, Except.bind, pure, Except.pure, Except.map]

end

end Progress

/-! ## Text that has not been put in yet -/

namespace Lexeme

/-- Puts characters of plain text in front of what follows them. -/
def prepend (start : Nat) : List Char → List Lexeme → List Lexeme
  | [], lexemes => lexemes
  | c :: chars, lexemes => consText start c (prepend (start + c.utf8Size) chars lexemes)

theorem prepend_append (start : Nat) (chars more : List Char) (lexemes : List Lexeme) :
    prepend start (chars ++ more) lexemes =
      prepend start chars (prepend (start + (encode chars).length) more lexemes) := by
  induction chars generalizing start with
  | nil => rfl
  | cons c chars ih =>
    rw [List.cons_append, prepend, prepend, ih, encode_cons, List.length_append,
      String.length_utf8EncodeChar, Nat.add_assoc]

theorem prepend_of_separate (start : Nat) (c : Char) (chars : List Char) {lexemes : List Lexeme}
    (separate : ∀ lexeme ∈ lexemes.head?, lexeme.mark.isText = false) :
    prepend start (c :: chars) lexemes = ⟨start, .text (c :: chars)⟩ :: lexemes := by
  induction chars generalizing start c with
  | nil =>
    match lexemes, separate with
    | [], _ => rfl
    | ⟨_, .text more⟩ :: _, separate => cases separate _ rfl
    | ⟨_, .token _ _⟩ :: _, _ => rfl
    | ⟨_, .opening⟩ :: _, _ => rfl
    | ⟨_, .closing⟩ :: _, _ => rfl
  | cons d chars ih => rw [prepend, ih, consText]

theorem scan_skip (start skip : Nat) (chars : List Char) :
    scan start skip chars =
      scan (start + (encode (chars.take skip)).length) 0 (chars.drop skip) := by
  induction chars generalizing start skip with
  | nil => rw [List.drop_nil, scan, scan]
  | cons c chars ih =>
    cases skip with
    | zero => rfl
    | succ skip =>
      rw [scan, ih, List.take_succ_cons, List.drop_succ_cons, encode_cons, List.length_append,
        String.length_utf8EncodeChar, Nat.add_assoc]

section

variable {rest : List Char} (start : Nat)

theorem scan_opening :
    scan start 0 ('(' :: rest) = ⟨start, .opening⟩ :: scan (start + 1) 0 rest := by
  rw [scan]
  rfl

theorem scan_closing : scan start 0 (')' :: rest) =
    ⟨start, .closing⟩ ::
      scan (start + (encode (')' :: rest.take (startsWith '?' rest).toNat)).length) 0
        (rest.drop (startsWith '?' rest).toNat) := by
  rw [scan, if_neg (by decide), if_pos rfl, scan_skip, encode_cons, List.length_append,
    String.length_utf8EncodeChar, Nat.add_assoc]

theorem scan_token {name : List Char} {optional : Bool} {width : Nat}
    (token : token? rest = some (name, optional, width)) :
    scan start 0 (':' :: rest) =
      ⟨start, .token name optional⟩ ::
        scan (start + (encode (':' :: rest.take width)).length) 0 (rest.drop width) := by
  rw [scan, if_neg (by decide), if_neg (by decide), if_pos rfl, token, encode_cons,
    List.length_append, String.length_utf8EncodeChar, ← Nat.add_assoc, ← scan_skip]

theorem scan_plain {c : Char} (notOpening : c ≠ '(') (notClosing : c ≠ ')')
    (noToken : c = ':' → token? rest = none) :
    scan start 0 (c :: rest) = consText start c (scan (start + c.utf8Size) 0 rest) := by
  rw [scan, if_neg notOpening, if_neg notClosing]
  by_cases colon : c = ':'
  · rw [if_pos colon, noToken colon]
  · rw [if_neg colon]

end

end Lexeme

theorem Lexeme.of_token? {chars name : List Char} {optional : Bool} {width : Nat}
    (token : token? chars = some (name, optional, width)) :
    name = chars.takeWhile isWordChar ∧ name ≠ [] ∧
      optional = startsWith '?' (chars.drop name.length) ∧
      width = name.length + optional.toNat +
        (startsWith '/' ((chars.drop name.length).drop optional.toNat)).toNat := by
  unfold token? at token
  split at token
  · cases token
  · rename_i nonempty
    simp only [Option.some.injEq, Prod.mk.injEq] at token
    obtain ⟨rfl, rfl, rfl⟩ := token
    exact ⟨rfl, nonempty, rfl, rfl⟩

theorem Progress.finish_prepend {progress : Progress} {pattern : String} {lexemes : List Lexeme}
    (start : Nat) (chars : List Char)
    (separate : ∀ lexeme ∈ lexemes.head?, lexeme.mark.isText = false) :
    progress.finish pattern (Lexeme.prepend start chars lexemes) =
      (progress.addText chars).finish pattern lexemes := by
  cases chars with
  | nil => rfl
  | cons c chars => rw [Lexeme.prepend_of_separate start c chars separate, finish_text, addText]

/-! ## Bytes between lexemes -/

section

variable {pattern : String} {before pending front rest : List Char}

theorem drop_utf8 (split : pattern.toList = front ++ rest) :
    (utf8 pattern).drop (encode front).length = encode rest := by
  rw [utf8_eq_encode, split, encode_append, List.drop_left]

theorem getElem?_utf8 (split : pattern.toList = front ++ rest) :
    (utf8 pattern)[(encode front).length]? = (encode rest).head? := by
  rw [← List.head?_drop, drop_utf8 split]

/-- Whether a special character comes next shows in the next byte. -/
theorem getElem?_utf8_beq (split : pattern.toList = front ++ rest) {c : Char}
    (ascii : c.toNat < 128) :
    ((utf8 pattern)[(encode front).length]? == some c.toUInt8) = Lexeme.startsWith c rest := by
  rw [getElem?_utf8 split, Bool.eq_iff_iff, beq_iff_eq, head?_encode_eq_some_iff ascii]
  cases rest with
  | nil => simp [Lexeme.startsWith]
  | cons d rest =>
    rw [List.head?_cons, Option.some_inj, Lexeme.startsWith, beq_iff_eq]
    exact eq_comm

theorem length_encode_startsWith {c : Char} (ascii : c.toNat < 128) (chars : List Char) :
    (encode (chars.take (Lexeme.startsWith c chars).toNat)).length =
      (Lexeme.startsWith c chars).toNat := by
  cases chars with
  | nil => rfl
  | cons d chars =>
    by_cases same : c = d
    · subst same
      simp [Lexeme.startsWith, utf8EncodeChar_of_ascii ascii]
    · simp [Lexeme.startsWith, beq_false_of_ne same]

namespace Reader

variable {reader : Reader} {literalStart i : Nat}

theorem pushLiteral?_eq (progress : Progress) (split : pattern.toList = before ++ pending ++ rest) :
    progress.reader.pushLiteral? pattern (encode before).length
      (encode (before ++ pending)).length = some (progress.addText pending).reader := by
  unfold pushLiteral?
  cases pending with
  | nil => simp [Progress.addText]
  | cons c chars =>
    have forward : (encode before).length < (encode (before ++ c :: chars)).length := by
      have size := c.utf8Size_pos
      rw [encode_append, encode_cons, List.length_append, List.length_append,
        String.length_utf8EncodeChar]
      omega
    rw [if_pos forward, slice?_eq_some split, Progress.addText, Progress.reader_add]
    rfl

theorem run?_byte {b : UInt8} (found : (utf8 pattern)[i]? = some b) (notOpening : b ≠ '('.toUInt8)
    (notClosing : b ≠ ')'.toUInt8)
    (noToken : ¬ (b = ':'.toUInt8 ∧ (utf8 pattern)[i + 1]?.any isWordByte = true)) :
    reader.run? pattern literalStart i = reader.run? pattern literalStart (i + 1) := by
  rw [run?]
  split
  · rename_i missing
    simp [found] at missing
  · rename_i other found'
    obtain rfl : b = other := Option.some.inj (found.symm.trans found')
    rw [if_neg noToken, if_neg notOpening, if_neg notClosing]

/-- Inside a long character nothing is special. -/
theorem run?_of_large {bytes after : List UInt8} (dropped : (utf8 pattern).drop i = bytes ++ after)
    (large : ∀ b ∈ bytes, 128 ≤ b.toNat) :
    reader.run? pattern literalStart i = reader.run? pattern literalStart (i + bytes.length) := by
  induction bytes generalizing i with
  | nil => rfl
  | cons b bytes ih =>
    have found : (utf8 pattern)[i]? = some b := by
      rw [← List.head?_drop, dropped]
      rfl
    have next : (utf8 pattern).drop (i + 1) = bytes ++ after := by
      rw [← List.drop_drop, dropped]
      rfl
    have other {special : UInt8} (ascii : special.toNat < 128) : b ≠ special := by
      rintro rfl
      have := large b List.mem_cons_self
      omega
    have noToken : ¬ (b = ':'.toUInt8 ∧ (utf8 pattern)[i + 1]?.any isWordByte = true) :=
      fun token => other (by decide) token.1
    have position : i + 1 + bytes.length = i + (b :: bytes).length := by
      rw [List.length_cons]
      omega
    rw [run?_byte found (other (by decide)) (other (by decide)) noToken,
      ih next fun d member => large d (List.mem_cons_of_mem b member), position]

theorem run?_plain {c : Char} (split : pattern.toList = front ++ c :: rest) (notOpening : c ≠ '(')
    (notClosing : c ≠ ')') (noToken : c = ':' → ∀ d ∈ rest.head?, isWordChar d = false) :
    reader.run? pattern literalStart (encode front).length =
      reader.run? pattern literalStart (encode (front ++ [c])).length := by
  have dropped := drop_utf8 split
  rw [encode_cons] at dropped
  have stop : (encode (front ++ [c])).length =
      (encode front).length + (String.utf8EncodeChar c).length := by simp
  rw [stop]
  by_cases ascii : c.toNat < 128
  · have bytes := utf8EncodeChar_of_ascii ascii
    have found : (utf8 pattern)[(encode front).length]? = some c.toUInt8 := by
      rw [getElem?_utf8 split, encode_cons, bytes]
      rfl
    have next : (utf8 pattern)[(encode front).length + 1]? = (encode rest).head? := by
      rw [← List.head?_drop, ← List.drop_drop, dropped, bytes]
      rfl
    rw [bytes, List.length_singleton]
    apply run?_byte found
    · rwa [Ne, first_eq_toUInt8_iff bytes (by decide)]
    · rwa [Ne, first_eq_toUInt8_iff bytes (by decide)]
    · rw [first_eq_toUInt8_iff bytes (by decide), next, any_isWordByte_head?_encode]
      rintro ⟨colon, word⟩
      cases rest with
      | nil => cases word
      | cons d rest => simp [noToken colon d rfl] at word
  · exact run?_of_large dropped fun b member =>
      le_toNat_of_mem_utf8EncodeChar (Nat.le_of_not_lt ascii) member

/-! ## One lexeme at a time -/

theorem run?_nil (progress : Progress) (split : pattern.toList = before ++ pending) :
    progress.reader.run? pattern (encode before).length (encode (before ++ pending)).length =
      some (((progress.addText pending).finish pattern []).map (·.map .ofSegment)) := by
  have split' : pattern.toList = before ++ pending ++ [] := by rw [List.append_nil, split]
  have last := pushLiteral?_eq progress split'
  have length : (utf8 pattern).length = (encode (before ++ pending)).length := by
    rw [utf8_eq_encode, split]
  have missing : (utf8 pattern)[(encode (before ++ pending)).length]? = none :=
    getElem?_utf8 split'
  rw [← length] at last
  rw [run?]
  split
  · obtain ⟨top, group⟩ := progress
    cases group with
    | none =>
      rw [last]
      cases pending <;>
        simp [Progress.addText, Progress.add, Progress.reader, Progress.finish, gather, Except.map]
    | some g => cases pending <;> rfl
  · rename_i b found
    cases missing.symm.trans found

theorem run?_opening (progress : Progress)
    (split : pattern.toList = before ++ pending ++ '(' :: rest) :
    progress.reader.run? pattern (encode before).length (encode (before ++ pending)).length =
      match progress.group with
      | some _ => some (.error (.nestedGroup pattern (encode (before ++ pending)).length))
      | none =>
          let next : Progress :=
            ⟨(progress.addText pending).top, some ⟨(encode (before ++ pending)).length, []⟩⟩
          next.reader.run? pattern (encode (before ++ pending ++ ['('])).length
            (encode (before ++ pending ++ ['('])).length := by
  have found : (utf8 pattern)[(encode (before ++ pending)).length]? = some '('.toUInt8 :=
    getElem?_utf8 split
  have stop : (encode (before ++ pending ++ ['('])).length =
      (encode (before ++ pending)).length + 1 := by
    rw [encode_append, List.length_append]
    rfl
  rw [run?]
  split
  · rename_i missing
    cases found.symm.trans missing
  · rename_i b found'
    obtain rfl : '('.toUInt8 = b := Option.some.inj (found.symm.trans found')
    rw [if_neg fun token => absurd token.1 (by decide), if_pos rfl, stop]
    have pushed := pushLiteral?_eq progress split
    obtain ⟨top, group⟩ := progress
    cases group with
    | some g => rfl
    | none =>
      rw [pushed]
      rfl

theorem run?_closing (progress : Progress)
    (split : pattern.toList = before ++ pending ++ ')' :: rest) :
    let behind := encode (before ++ pending ++ ')' :: rest.take (Lexeme.startsWith '?' rest).toNat)
    progress.reader.run? pattern (encode before).length (encode (before ++ pending)).length =
      match (progress.addText pending).group with
      | none => some (.error (.unbalanced pattern (encode (before ++ pending)).length))
      | some ⟨start, []⟩ => some (.error (.emptyGroup pattern start))
      | some ⟨_, p :: body⟩ =>
          let next : Progress := ⟨(progress.addText pending).top ++ [.group (p :: body)], none⟩
          next.reader.run? pattern behind.length behind.length := by
  have found : (utf8 pattern)[(encode (before ++ pending)).length]? = some ')'.toUInt8 :=
    getElem?_utf8 split
  have split' : pattern.toList = before ++ pending ++ [')'] ++ rest := by simp [split]
  have next : (encode (before ++ pending ++ [')'])).length =
      (encode (before ++ pending)).length + 1 := by
    rw [encode_append, List.length_append]
    rfl
  have marked := getElem?_utf8_beq split' (c := '?') (by decide)
  have stop : (encode (before ++ pending ++
        ')' :: rest.take (Lexeme.startsWith '?' rest).toNat)).length =
      (encode (before ++ pending)).length + 1 + (Lexeme.startsWith '?' rest).toNat := by
    rw [List.append_cons, encode_append, List.length_append, next,
      length_encode_startsWith (by decide)]
  rw [next] at marked
  intro behind
  rw [run?]
  split
  · rename_i missing
    cases found.symm.trans missing
  · rename_i b found'
    obtain rfl : ')'.toUInt8 = b := Option.some.inj (found.symm.trans found')
    rw [if_neg fun token => absurd token.1 (by decide), if_neg (by decide), if_pos rfl,
      pushLiteral?_eq progress split, marked]
    dsimp only [behind]
    rw [stop]
    obtain ⟨top, group⟩ := progress.addText pending
    match group with
    | none => rfl
    | some ⟨start, []⟩ => rfl
    | some ⟨start, p :: body⟩ =>
      simp [Progress.reader, Node.ofSegment]

theorem run?_token (progress : Progress)
    (split : pattern.toList = before ++ pending ++ ':' :: rest) {name : List Char}
    {optional : Bool} {width : Nat}
    (token : Lexeme.token? rest = some (name, optional, width)) :
    let behind := encode (before ++ pending ++ ':' :: rest.take width)
    progress.reader.run? pattern (encode before).length (encode (before ++ pending)).length =
      ((progress.addText pending).add (.token (String.ofList name) optional)).reader.run? pattern
        behind.length behind.length := by
  obtain ⟨name_eq, nonempty, optional_eq, width_eq⟩ := Lexeme.of_token? token
  obtain ⟨more, rfl⟩ : name <+: rest := name_eq ▸ List.takeWhile_prefix isWordChar
  rw [List.drop_left] at optional_eq width_eq
  have found : (utf8 pattern)[(encode (before ++ pending)).length]? = some ':'.toUInt8 :=
    getElem?_utf8 split
  have splitColon : pattern.toList = before ++ pending ++ [':'] ++ (name ++ more) := by simp [split]
  have splitName : pattern.toList = before ++ pending ++ [':'] ++ name ++ more := by simp [split]
  have splitMark : pattern.toList = before ++ pending ++ [':'] ++ name ++
      more.take optional.toNat ++ more.drop optional.toNat := by simp [split]
  have nameStart : (encode (before ++ pending ++ [':'])).length =
      (encode (before ++ pending)).length + 1 := by
    rw [encode_append, List.length_append]
    rfl
  have nameStop : (encode (before ++ pending ++ [':'] ++ name)).length =
      (encode (before ++ pending)).length + 1 + (encode name).length := by
    rw [encode_append, List.length_append, nameStart]
  have markStop : (encode (before ++ pending ++ [':'] ++ name ++
      more.take optional.toNat)).length =
      (encode (before ++ pending)).length + 1 + (encode name).length + optional.toNat := by
    rw [encode_append, List.length_append, nameStop, optional_eq,
      length_encode_startsWith (by decide)]
  have first : (utf8 pattern)[(encode (before ++ pending)).length + 1]?.any isWordByte = true := by
    rw [← nameStart, getElem?_utf8 splitColon, any_isWordByte_head?_encode]
    obtain ⟨d, name, rfl⟩ := List.exists_cons_of_ne_nil nonempty
    have member : d ∈ (d :: name ++ more).takeWhile isWordChar := by
      rw [← name_eq]
      exact List.mem_cons_self
    have word : isWordChar d = true := List.mem_takeWhile_imp member
    exact word
  have run : (((utf8 pattern).drop ((encode (before ++ pending)).length + 1)).takeWhile
      isWordByte).length = (encode name).length := by
    rw [← nameStart, drop_utf8 splitColon, takeWhile_isWordByte_encode, ← name_eq]
  have cutName := slice?_eq_some splitName
  rw [nameStart, nameStop] at cutName
  have marked := getElem?_utf8_beq splitName (c := '?') (by decide)
  have slashed := getElem?_utf8_beq splitMark (c := '/') (by decide)
  rw [nameStop, ← optional_eq] at marked
  rw [markStop] at slashed
  have stop : (encode (before ++ pending ++ ':' :: (name ++ more).take width)).length =
      (encode (before ++ pending)).length + 1 + (encode name).length + optional.toNat +
        (Lexeme.startsWith '/' (more.drop optional.toNat)).toNat := by
    rw [width_eq, Nat.add_assoc, List.take_length_add_append, List.take_add, List.append_cons,
      ← List.append_assoc, ← List.append_assoc, encode_append, List.length_append, markStop,
      length_encode_startsWith (by decide)]
  intro behind
  rw [run?]
  split
  · rename_i missing
    cases found.symm.trans missing
  · rename_i b found'
    obtain rfl : ':'.toUInt8 = b := Option.some.inj (found.symm.trans found')
    rw [if_pos ⟨rfl, first⟩, run, pushLiteral?_eq progress split]
    dsimp only [behind]
    rw [cutName, marked, stop, Progress.reader_add]
    dsimp only
    rw [slashed]
    rfl

/-- From the end of a lexeme on, with some text that has not been put in yet, the reader goes on to
what comes of the lexemes that follow. -/
theorem run?_eq (progress : Progress) (split : pattern.toList = before ++ pending ++ rest) :
    progress.reader.run? pattern (encode before).length (encode (before ++ pending)).length =
      some ((progress.finish pattern (Lexeme.prepend (encode before).length pending
        (Lexeme.scan (encode (before ++ pending)).length 0 rest))).map (·.map .ofSegment)) := by
  -- A lexeme may take several characters, so the induction is on their number.
  induction size : rest.length using Nat.strong_induction_on
    generalizing progress before pending rest with
  | h n ih =>
    subst size
    cases rest with
    | nil =>
      rw [List.append_nil] at split
      rw [run?_nil progress split, Lexeme.scan, Progress.finish_prepend _ _ (by simp)]
    | cons c rest =>
      have shorter (skip : Nat) : (rest.drop skip).length < (c :: rest).length := by
        rw [List.length_drop, List.length_cons]
        omega
      have behind (next : Progress) (front : List Char) (skip : Nat)
          (split : pattern.toList = front ++ rest.drop skip) :
          next.reader.run? pattern (encode front).length (encode front).length =
            some ((next.finish pattern
              (Lexeme.scan (encode front).length 0 (rest.drop skip))).map (·.map .ofSegment)) := by
        have split' : pattern.toList = front ++ [] ++ rest.drop skip := by
          rw [List.append_nil, split]
        have goesOn := ih _ (shorter skip) next split' rfl
        rwa [List.append_nil] at goesOn
      have length (more : List Char) : (encode (before ++ pending ++ more)).length =
          (encode (before ++ pending)).length + (encode more).length := by
        rw [encode_append, List.length_append]
      by_cases opening : c = '('
      · subst opening
        have stop := length ['(']
        rw [run?_opening progress split, Lexeme.scan_opening,
          Progress.finish_prepend _ _ (by simp [Mark.isText])]
        obtain ⟨top, group⟩ := progress
        cases group with
        | some g =>
          cases pending <;>
            simp [Progress.addText, Progress.add, Progress.finish, gather, Except.map]
        | none =>
          dsimp only
          rw [behind _ _ 0 (by simp [split]), stop, List.drop_zero]
          cases pending <;> simp [Progress.addText, Progress.add, Progress.finish_opening] <;> rfl
      · by_cases closing : c = ')'
        · subst closing
          rw [run?_closing progress split, Lexeme.scan_closing, ← length,
            Progress.finish_prepend _ _ (by simp [Mark.isText])]
          obtain ⟨top, group⟩ := progress.addText pending
          cases group with
          | none => simp [Progress.finish, gather, Except.map]
          | some g =>
            obtain ⟨start, body⟩ := g
            cases body with
            | nil => simp [Progress.finish, gather, Except.map]
            | cons p body =>
              dsimp only
              rw [behind _ _ (Lexeme.startsWith '?' rest).toNat (by simp [split]),
                Progress.finish_closing]
        · by_cases token : c = ':' ∧ (Lexeme.token? rest).isSome
          · obtain ⟨rfl, isSome⟩ := token
            obtain ⟨⟨name, optional, width⟩, token⟩ := Option.isSome_iff_exists.mp isSome
            rw [run?_token progress split token, Lexeme.scan_token _ token, ← length,
              Progress.finish_prepend _ _ (by simp [Mark.isText]),
              behind _ _ width (by simp [split]), Progress.finish_token]
          · have noToken : c = ':' → Lexeme.token? rest = none := by
              intro colon
              rw [← Option.not_isSome_iff_eq_none]
              exact fun isSome => token ⟨colon, isSome⟩
            have plain : c = ':' → ∀ d ∈ rest.head?, isWordChar d = false :=
              fun colon => token?_eq_none_iff.mp (noToken colon)
            have split' : pattern.toList = before ++ (pending ++ [c]) ++ rest := by simp [split]
            have stop : (encode (before ++ (pending ++ [c]))).length =
                (encode (before ++ pending)).length + c.utf8Size := by
              rw [← List.append_assoc, length]
              simp
            have start : (encode before).length + (encode pending).length =
                (encode (before ++ pending)).length := by
              rw [encode_append, List.length_append]
            rw [run?_plain split opening closing plain, List.append_assoc,
              ih _ (shorter 0) progress split' rfl, Lexeme.scan_plain _ opening closing noToken,
              stop, Lexeme.prepend_append, start]
            rfl

end Reader

end

/-! ## Checks on what was read -/

def Node.names : List Node → List String
  | [] => []
  | .literal _ :: nodes => names nodes
  | .token name _ :: nodes => name :: names nodes
  | .group body :: nodes => names body ++ names nodes

theorem Node.names_ofPiece (body : List Piece) :
    names (body.map .ofPiece) = body.flatMap Piece.names := by
  induction body with
  | nil => simp [names]
  | cons p body ih => cases p <;> simp [ofPiece, names, Piece.names, ih]

theorem Node.names_ofSegment (segments : List Segment) :
    names (segments.map .ofSegment) = tokenNames segments := by
  induction segments with
  | nil => simp [names]
  | cons s segments ih =>
    cases s with
    | piece p => cases p <;> simp [ofSegment, ofPiece, names, Segment.names, Piece.names, ih]
    | group body => simp [ofSegment, names, names_ofPiece, Segment.names, ih]

/-- The checks on the names that a pattern declares. -/
def checkNames (pattern : String) (names : List String) : Except PatternError Unit :=
  if PatternError.maxTokens < names.length then .error (.tooManyTokens names.length)
  else match firstRepeated? [] names with
    | some name => .error (.duplicateToken pattern name)
    | none => .ok ()

/-- Reads a pattern by its bytes.  No result at all is a fault. -/
def parseChecked (pattern : String) : Option (Except PatternError (List Node)) :=
  match checkLength pattern with
  | .error e => some (.error e)
  | .ok () =>
      match Reader.run? pattern 0 0 ⟨[], none⟩ with
      | none => none
      | some (.error e) => some (.error e)
      | some (.ok nodes) => some ((checkNames pattern (Node.names nodes)).map fun _ => nodes)

/-- Reading a pattern by its bytes is reading its lexemes, and never faults. -/
theorem parseChecked_eq (pattern : String) :
    parseChecked pattern = some ((parse pattern).map (·.map .ofSegment)) := by
  have read : Reader.run? pattern 0 0 ⟨[], none⟩ =
      some ((gather pattern none (lexemes pattern)).map (·.map .ofSegment)) := by
    have start := @Reader.run?_eq pattern [] [] pattern.toList ⟨[], none⟩ rfl
    have finish : Progress.finish ⟨[], none⟩ pattern (lexemes pattern) =
        gather pattern none (lexemes pattern) := by
      rw [Progress.finish]
      cases gather pattern none (lexemes pattern) <;> rfl
    rw [← finish]
    exact start
  rw [parseChecked, parse, read]
  cases checkLength pattern with
  | error e => rfl
  | ok passed =>
    cases gather pattern none (lexemes pattern) with
    | error e => rfl
    | ok segments =>
      have checked : checkNames pattern (Node.names (segments.map .ofSegment)) =
          checkTokens pattern segments := by
        rw [Node.names_ofSegment]
        rfl
      simp only [Except.map, checked, bind, Except.bind, pure, Except.pure]
      cases checkTokens pattern segments <;> rfl

end PathRouting.Pattern
