import GraphServe.Http.Form
import GraphServe.Proofs.Text.Utf8
import Mathlib.Data.List.Basic

/-!
# Forms with files — reading what was written

Once all of a form has arrived, a reader is where it stands and what is left of the form
(`FormReader.at`).  Each step of reading is told by the bytes it stands before.

* `nextPart_part`: before a delimiter and the lines of a header, the next part is what the fields in
  the lines describe.
* `nextPart_last`: before the last delimiter there is no next part.
* `foldData_eq`: in a part, its data is what comes before the next delimiter, as one piece.  It can
  be any bytes that do not contain the delimiter.
* `ContentType.parameter_eq`: in a content type, a parameter of a name in lower case, with a value of
  the characters of a token, is as it was written.
-/

namespace GraphServe.Http

variable {pattern before text rest content : List UInt8} {b : UInt8}

/-! ### Cutting -/

theorem cutAt_of_prefix (before : List UInt8) (h : pattern <+: text) :
    cutAt pattern before text = some (before.reverse, text) := by
  rw [cutAt.eq_def]
  exact if_pos (List.isPrefixOf_iff_prefix.mpr h)

theorem cutAt_cons (before : List UInt8) (h : ¬ pattern <+: b :: rest) :
    cutAt pattern before (b :: rest) = cutAt pattern (b :: before) rest := by
  rw [cutAt.eq_def]
  exact if_neg fun h' => h (List.isPrefixOf_iff_prefix.mp h')

/-- Bytes are passed over among which the first of a pattern is not. -/
theorem cutAt_append_of_not_mem (before : List UInt8) (h : b ∉ content) (rest : List UInt8) :
    cutAt (b :: pattern) before (content ++ rest)
      = cutAt (b :: pattern) (content.reverse ++ before) rest := by
  induction content generalizing before with
  | nil => rfl
  | cons c content ih =>
      obtain ⟨hc, hcontent⟩ := not_or.mp (List.mem_cons.not.mp h)
      rw [List.cons_append, cutAt_cons _ fun hprefix => hc (List.cons_prefix_cons.mp hprefix).1,
        ih _ hcontent, List.reverse_cons, List.append_assoc]
      rfl

/-- A pattern that begins with a byte of its own does not begin inside of bytes that it follows and
that do not contain it. -/
theorem not_prefix_of_not_within (hb : b ∉ pattern) (hcontent : content ≠ [])
    (h : ¬ (b :: pattern) <:+: content) :
    ¬ (b :: pattern) <+: content ++ (b :: pattern ++ rest) := by
  rintro ⟨after, hafter⟩
  rcases List.append_eq_append_iff.mp hafter with ⟨inside, hinside, -⟩ | ⟨across, hacross, hrest⟩
  · exact h ⟨[], inside, by simpa using hinside.symm⟩
  · obtain ⟨c, content, rfl⟩ := List.exists_cons_of_ne_nil hcontent
    obtain ⟨rfl, hpattern⟩ := List.cons_eq_cons.mp hacross
    cases across with
    | nil => exact h ⟨[], [], by rw [hpattern]; simp⟩
    | cons d across =>
        rw [List.cons_append, List.cons_append] at hrest
        obtain ⟨rfl, -⟩ := List.cons_eq_cons.mp hrest
        exact hb (hpattern ▸ List.mem_append_right _ List.mem_cons_self)

/-- The first place of a pattern is right after bytes that do not contain it. -/
theorem cutAt_append (before : List UInt8) (hb : b ∉ pattern)
    (h : ¬ (b :: pattern) <:+: content) (rest : List UInt8) :
    cutAt (b :: pattern) before (content ++ (b :: pattern ++ rest))
      = some (before.reverse ++ content, b :: pattern ++ rest) := by
  induction content generalizing before with
  | nil =>
      rw [List.nil_append, cutAt_of_prefix _ (List.prefix_append _ _), List.append_nil]
  | cons c content ih =>
      have hlater : ¬ (b :: pattern) <:+: content := fun hwithin =>
        h (hwithin.trans (List.suffix_cons c content).isInfix)
      have hpass : cutAt (b :: pattern) before (c :: (content ++ (b :: pattern ++ rest)))
          = cutAt (b :: pattern) (c :: before) (content ++ (b :: pattern ++ rest)) :=
        cutAt_cons before (not_prefix_of_not_within hb (List.cons_ne_nil c content) h)
      rw [List.cons_append, hpass, ih _ hlater, List.reverse_cons, List.append_assoc]
      rfl

/-! ### Headers -/

/-- A line of a header: it is not empty and contains no end of a line. -/
structure IsLine (line : List UInt8) : Prop where
  nonempty : line ≠ []
  noReturn : (13 : UInt8) ∉ line
  noFeed   : (10 : UInt8) ∉ line

/-- Lines, each with its end. -/
def linesText (lines : List (List UInt8)) : List UInt8 := lines.flatMap (· ++ lineEnd)

theorem linesText_cons (line : List UInt8) (lines : List (List UInt8)) :
    linesText (line :: lines) = line ++ 13 :: 10 :: linesText lines := by
  rw [linesText, List.flatMap_cons, List.append_assoc]
  rfl

/-- The empty line after a header is found. -/
theorem cutAt_linesText {lines : List (List UInt8)} (hlines : ∀ line ∈ lines, IsLine line)
    (hsome : lines ≠ []) (before rest : List UInt8) :
    ∃ block, cutAt [13, 10, 13, 10] before (linesText lines ++ 13 :: 10 :: rest)
        = some (block, 13 :: 10 :: 13 :: 10 :: rest) ∧
      block ++ lineEnd = before.reverse ++ linesText lines := by
  induction lines generalizing before with
  | nil => exact absurd rfl hsome
  | cons line lines ih =>
      obtain ⟨hline, hlines⟩ := List.forall_mem_cons.mp hlines
      rw [linesText_cons, List.append_assoc, cutAt_append_of_not_mem _ hline.noReturn]
      cases lines with
      | nil =>
          exact ⟨_, cutAt_of_prefix _ (List.prefix_append _ _), by simp [linesText, lineEnd]⟩
      | cons next lines =>
          have hnext := hlines next List.mem_cons_self
          obtain ⟨c, more, hmore⟩ := List.exists_cons_of_ne_nil hnext.nonempty
          have hc : c ≠ 13 := fun h => hnext.noReturn (by rw [hmore, h]; exact List.mem_cons_self)
          obtain ⟨block, hcut, hblock⟩ := ih hlines (List.cons_ne_nil _ _)
            (10 :: 13 :: (line.reverse ++ before))
          refine ⟨block, ?_, ?_⟩
          · -- the end of this line is not the start of an empty one
            rw [← hcut, linesText_cons, hmore]
            refine (cutAt_cons _ fun ⟨_, h⟩ => hc ?_).trans (cutAt_cons _ fun ⟨_, h⟩ => ?_)
            · exact absurd (List.cons_eq_cons.mp h).1 (by decide)
            · exact (List.cons_eq_cons.mp (List.cons_eq_cons.mp (List.cons_eq_cons.mp h).2).2).1.symm
          · rw [hblock, linesText_cons]
            simp

theorem headerLines_line {line : List UInt8} (hfeed : (10 : UInt8) ∉ line)
    (current rest : List UInt8) :
    headerLines current (line ++ 13 :: 10 :: rest)
      = (current.reverse ++ line) :: headerLines [] rest := by
  induction line generalizing current with
  | nil => simp [headerLines]
  | cons b line ih =>
      obtain ⟨hb, hline⟩ := not_or.mp (List.mem_cons.not.mp hfeed)
      rw [List.cons_append, headerLines, ih hline, List.reverse_cons, List.append_assoc]
      · rfl
      · exact fun h => hb h.symm

theorem headerLines_linesText {lines : List (List UInt8)} (hlines : ∀ line ∈ lines, IsLine line)
    (rest : List UInt8) : headerLines [] (linesText lines ++ rest) = lines ++ headerLines [] rest := by
  induction lines with
  | nil => rfl
  | cons line lines ih =>
      obtain ⟨hline, hlines⟩ := List.forall_mem_cons.mp hlines
      rw [linesText_cons, List.append_assoc]
      exact (headerLines_line hline.noFeed [] _).trans (congrArg (line :: ·) (ih hlines))

/-- The fields of a header are those of its lines. -/
theorem headerFields?_linesText {lines : List (List UInt8)}
    {fields : List (String × List UInt8)} (hlines : ∀ line ∈ lines, IsLine line)
    (hfields : lines.mapM headerField? = some fields) (hfew : fields.length ≤ maxPartFields) :
    headerFields? (linesText lines ++ lineEnd) = some fields := by
  have hcut : (headerLines [] (linesText lines ++ lineEnd)).takeWhile (!·.isEmpty) = lines := by
    rw [headerLines_linesText hlines, List.takeWhile_append_of_pos]
    · exact List.append_nil lines
    · exact fun line hline => by simpa using (hlines line hline).nonempty
  simp only [headerFields?, hcut, hfields, Option.bind_eq_bind, Option.bind_some, guard,
    if_pos hfew]
  rfl

/-! ### Fields -/

/-- A byte that the name of a field may have. -/
abbrev IsNameByte (b : UInt8) : Prop :=
  (b < 128 && MediaType.isTokenChar (Char.ofNat b.toNat)) = true

/-- A byte that the value of a field may have. -/
abbrev IsValueByte (b : UInt8) : Prop := (b == 9 || (32 ≤ b && b != 127)) = true

theorem dropWhile_isBlankByte {l : List UInt8} (h : ∀ b ∈ l.head?, isBlankByte b = false) :
    l.dropWhile isBlankByte = l := by
  cases l with
  | nil => rfl
  | cons b l => exact List.dropWhile_cons_of_neg (by rw [h b rfl]; exact Bool.false_ne_true)

/-- Bytes that can be the value of a field: without blanks around them. -/
structure IsFieldValue (value : List UInt8) : Prop where
  bytes : ∀ b ∈ value, IsValueByte b
  head  : ∀ b ∈ value.head?, isBlankByte b = false
  last  : ∀ b ∈ value.getLast?, isBlankByte b = false

theorem isLine_field {name value : List UInt8} (hname : ∀ b ∈ name, IsNameByte b)
    (hvalue : IsFieldValue value) : IsLine (name ++ 58 :: 32 :: value) := by
  have hnot {b : UInt8} (hb : ¬ IsNameByte b) (hb' : ¬ IsValueByte b) (hcolon : b ≠ 58)
      (hblank : b ≠ 32) : b ∉ name ++ 58 :: 32 :: value := by
    simp only [List.mem_append, List.mem_cons, not_or]
    exact ⟨fun h => hb (hname b h), hcolon, hblank, fun h => hb' (hvalue.bytes b h)⟩
  exact ⟨by simp, hnot (by decide) (by decide) (by decide) (by decide),
    hnot (by decide) (by decide) (by decide) (by decide)⟩

/-- A field as it is written. -/
theorem headerField?_eq {name : String} {value : List UInt8} (hname : name ≠ "")
    (hnameBytes : ∀ b ∈ Text.bytes name, IsNameByte b) (hvalue : IsFieldValue value) :
    headerField? (Text.bytes name ++ 58 :: 32 :: value) = some (Headers.lower name, value) := by
  have htake : (Text.bytes name ++ 58 :: 32 :: value).takeWhile
      (fun b => b < 128 && MediaType.isTokenChar (Char.ofNat b.toNat)) = Text.bytes name := by
    rw [List.takeWhile_append_of_pos hnameBytes]
    exact List.append_nil _
  have htrim : (((32 :: value).dropWhile isBlankByte).reverse.dropWhile isBlankByte).reverse
      = value := by
    rw [show (32 :: value).dropWhile isBlankByte = value.dropWhile isBlankByte from rfl,
      dropWhile_isBlankByte hvalue.head, dropWhile_isBlankByte, List.reverse_reverse]
    rw [List.head?_reverse]
    exact hvalue.last
  have hall : ((32 : UInt8) :: value).all (fun b => b == 9 || (32 ≤ b && b != 127)) = true :=
    List.all_eq_true.mpr (List.forall_mem_cons.mpr ⟨by decide, hvalue.bytes⟩)
  obtain ⟨b, more, hb⟩ : ∃ b more, Text.bytes name = b :: more := by
    refine List.exists_cons_of_ne_nil fun hnil => hname ?_
    have := Text.decodeLossy_bytes name
    rw [hnil] at this
    rw [← this, Text.decodeLossy, Text.decodeChars]
  unfold headerField?
  simp only [htake, List.drop_left]
  rw [hb]
  simp only
  rw [if_pos hall, htrim, ← hb, Text.decodeLossy_bytes]

/-! ### Attributes -/

/-- A quoted value that contains no quote and does not end in a backslash. -/
theorem quotedValue?_eq {value : List UInt8} (hquote : (34 : UInt8) ∉ value)
    (hlast : value.getLast? ≠ some 92) (before rest : List UInt8) :
    quotedValue? before (value ++ 34 :: rest) = some (before.reverse ++ value) := by
  induction value generalizing before with
  | nil => rw [List.nil_append, quotedValue?, if_pos rfl, List.append_nil]; exact nofun
  | cons b value ih =>
      obtain ⟨hb, hquote⟩ := not_or.mp (List.mem_cons.not.mp hquote)
      have hlater : value.getLast? ≠ some 92 := fun h => hlast (by
        rw [List.getLast?_cons, h]
        rfl)
      rw [List.cons_append, quotedValue?, if_neg (Ne.symm hb), ih hquote hlater, List.reverse_cons,
        List.append_assoc]
      · rfl
      · -- a backslash stands before a quote only if it is the last byte
        rintro more rfl hmore
        cases value with
        | nil => exact hlast rfl
        | cons c value =>
            obtain ⟨rfl, -⟩ := List.cons_eq_cons.mp hmore
            exact hquote (List.mem_cons_of_mem 92 List.mem_cons_self)

/-- A name is looked for after bytes among which its first is not. -/
theorem attribute?_append (name : List UInt8) (hb : b ∉ content) (previous : Option UInt8)
    (rest : List UInt8) : ∃ previous', attribute? (b :: name) 0 previous (content ++ rest)
      = attribute? (b :: name) 0 previous' rest := by
  induction content generalizing previous with
  | nil => exact ⟨previous, rfl⟩
  | cons c content ih =>
      obtain ⟨hc, hcontent⟩ := not_or.mp (List.mem_cons.not.mp hb)
      obtain ⟨previous', hrest⟩ := ih hcontent (some c)
      refine ⟨previous', ?_⟩
      rw [List.cons_append, attribute?, if_neg, hrest]
      simp [List.isPrefixOf, hc]

variable {fields : List (String × List UInt8)} {disposition : List UInt8}

theorem ofFields_name (hfield : fields.reverse.lookup "content-disposition" = some disposition)
    {name : String}
    (h : attribute? (Text.bytes "name") 0 none disposition = some (Text.bytes name)) :
    (Part.ofFields fields).name = name := by
  simp only [Part.ofFields, hfield, Option.bind_some, h, Text.decode?_bytes, Option.getD_some]

theorem ofFields_filename? (hfield : fields.reverse.lookup "content-disposition" = some disposition)
    {filename? : Option String}
    (h : attribute? (Text.bytes "filename") 0 none disposition = filename?.map Text.bytes) :
    (Part.ofFields fields).filename? = filename? := by
  simp only [Part.ofFields, hfield, Option.bind_some, h]
  cases filename? with
  | none => rfl
  | some filename => exact Text.decode?_bytes filename

theorem ofFields_contentType? (type? : Option String)
    (hfield : fields.reverse.lookup "content-type" = type?.map Text.bytes)
    (hvisible : ∀ type ∈ type?, visibleText? (Text.bytes type) = some type) :
    (Part.ofFields fields).contentType? = type?.bind ContentType.read? := by
  simp only [Part.ofFields, hfield]
  cases type? with
  | none => rfl
  | some type =>
      rw [Option.map_some, Option.bind_some, hvisible type rfl]

/-! ### Steps -/

namespace FormReader

variable {r : FormReader}

theorem receive_ended (h : r.ended = true) : r.receive = .ok r := by
  rw [receive, if_pos h]

/-- A step for which enough has arrived. -/
theorem await_eq {α : Type} {step : List UInt8 → Option (α × List UInt8)} (a : α)
    (rest : List UInt8) (h : step r.buffer = some (a, rest)) : r.await step = .ok (a, { r with buffer := rest }) := by
  rw [await]
  simp only [h]

theorem takeExactly_append (first rest : List UInt8) :
    takeExactly first.length (first ++ rest) = some (first, rest) := by
  rw [takeExactly, if_pos (by simp), List.splitAt_eq, List.take_left, List.drop_left]

/-- The lines of a header after a delimiter. -/
theorem header_eq {lines : List (List UInt8)} {fields : List (String × List UInt8)}
    (hlines : ∀ line ∈ lines, IsLine line) (hsome : lines ≠ [])
    (hfields : lines.mapM headerField? = some fields) (hfew : fields.length ≤ maxPartFields)
    (hbuffer : r.buffer = lineEnd ++ (linesText lines ++ (lineEnd ++ rest))) :
    r.header = .ok (Part.ofFields fields, { r with stage := .data, buffer := rest }) := by
  obtain ⟨block, hcut, hblock⟩ := cutAt_linesText hlines hsome [] rest
  have hfound : headerFields? (block ++ lineEnd ++ lineEnd) = some fields := by
    rw [hblock]
    exact headerFields?_linesText hlines hfields hfew
  rw [header, await_eq () r.buffer (by rw [hbuffer]; rfl)]
  simp only [bind, Except.bind]
  rw [await_eq lineEnd _ (by rw [hbuffer]; exact takeExactly_append lineEnd _)]
  simp only [ne_eq, not_true_eq_false, if_false]
  rw [await_eq (block ++ lineEnd ++ lineEnd) rest]
  · simp only [hfound]
    rfl
  · exact congrArg (Option.map _) hcut

/-- **The next part** is what the fields of its header describe. -/
theorem nextPart_part {lines : List (List UInt8)} {fields : List (String × List UInt8)}
    (hended : r.ended = true) (hstage : r.stage = .delimiter)
    (hlines : ∀ line ∈ lines, IsLine line) (hsome : lines ≠ [])
    (hfields : lines.mapM headerField? = some fields) (hfew : fields.length ≤ maxPartFields)
    (hbuffer : r.buffer = r.delimiter ++ (lineEnd ++ (linesText lines ++ (lineEnd ++ rest)))) :
    r.nextPart = .ok (some (Part.ofFields fields), { r with stage := .data, buffer := rest }) := by
  rw [nextPart, if_neg (by rw [hstage]; exact nofun), advance, hstage]
  simp only [receive_ended hended, bind, Except.bind]
  rw [await_eq _ _ (by rw [hbuffer]; exact takeExactly_append r.delimiter _)]
  simp only
  rw [if_neg fun h => h rfl, await_eq lineEnd _ (by
    exact congrArg (Option.map _) (takeExactly_append lineEnd _))]
  simp only
  rw [if_neg (by decide), header_eq hlines hsome hfields hfew rfl]
  rfl

/-- After the last part there is none. -/
theorem nextPart_last (hended : r.ended = true) (hstage : r.stage = .delimiter)
    (hbuffer : r.buffer = r.delimiter ++ 45 :: 45 :: rest) :
    ∃ s, r.nextPart = .ok (none, s) := by
  rw [nextPart, if_neg (by rw [hstage]; exact nofun), advance, hstage]
  simp only [receive_ended hended, bind, Except.bind]
  rw [await_eq _ _ (by rw [hbuffer]; exact takeExactly_append r.delimiter _)]
  simp only
  rw [if_neg fun h => h rfl, await_eq [45, 45] _ (by
    exact congrArg (Option.map _) (takeExactly_append [45, 45] rest))]
  exact ⟨_, rfl⟩

/-- **The data of a part** is what comes before the next delimiter. -/
theorem foldData_eq {ε σ : Type} {fault : FormFault → ε} {step : σ → List UInt8 → Except ε σ}
    {state done : σ} (hended : r.ended = true) (hboundary : (13 : UInt8) ∉ r.boundary)
    (hcontent : ¬ lineEnd ++ r.delimiter <:+: content)
    (hbuffer : r.buffer = content ++ (lineEnd ++ (r.delimiter ++ rest)))
    (hstep : step state content = .ok done) :
    r.foldData fault step state
      = .ok (done, { r with stage := .delimiter, buffer := r.delimiter ++ rest }) := by
  have hcut : cutAt (lineEnd ++ r.delimiter) [] r.buffer
      = some (content, lineEnd ++ (r.delimiter ++ rest)) := by
    rw [hbuffer]
    exact cutAt_append [] (by simpa [delimiter] using hboundary) hcontent rest
  rw [foldData]
  split
  · rename_i fault' hreceive
    cases (receive_ended hended).symm.trans hreceive
  · rename_i s hreceive
    cases (receive_ended hended).symm.trans hreceive
    simp only [hcut, hstep]
    rfl

/-! ### The start -/

/-- A reader to which all of a form has arrived, before the first delimiter. -/
def arrived (boundary : List UInt8) (limit : Nat) (body : List UInt8) : FormReader where
  boundary := boundary
  limit := limit
  stage := .delimiter
  buffer := body
  coming := []
  ready := true
  ended := true
  received := body.length

theorem seek_eq (h : r.delimiter <+: r.buffer) : r.seek = .ok { r with stage := .delimiter } := by
  rw [seek, cutAt_of_prefix [] h]

/-- A form that is there as a whole is read as if all of it has arrived. -/
theorem nextPart_ofBody {boundary : String} {limit : Nat} {body : List UInt8}
    (hsize : body.length ≤ limit) (hstart : [45, 45] ++ Text.bytes boundary <+: body) :
    (ofBody boundary limit (.whole body)).nextPart
      = (arrived (Text.bytes boundary) limit body).nextPart := by
  have hadvance : (ofBody boundary limit (.whole body)).advance
      = .ok (arrived (Text.bytes boundary) limit body) := by
    have hreceive : (ofBody boundary limit (.whole body)).receive
        = .ok { arrived (Text.bytes boundary) limit body with stage := .opening } := by
      simp [ofBody, receive, arrived, Nat.not_lt.mpr hsize]
    rw [advance]
    simp only [show (ofBody boundary limit (.whole body)).stage = .opening from rfl, hreceive, bind,
      Except.bind]
    exact seek_eq hstart
  have hstay : (arrived (Text.bytes boundary) limit body).advance
      = .ok (arrived (Text.bytes boundary) limit body) := by
    rw [advance]
    exact receive_ended rfl
  rw [nextPart, nextPart, hadvance, hstay]
  rfl

end FormReader

/-! ### Content types -/

namespace ContentType

/-- What contains no quote and no semicolon is a part of one piece. -/
theorem pieces_append {l : List Char} (h : ∀ c ∈ l, c ≠ '"' ∧ c ≠ ';') (current rest : List Char) :
    pieces false current (l ++ rest)
      = pieces false (l.reverse ++ current) rest := by
  induction l generalizing current with
  | nil => rfl
  | cons c l ih =>
      obtain ⟨⟨hquote, hsemicolon⟩, hl⟩ := List.forall_mem_cons.mp h
      rw [List.cons_append, pieces, ih hl, List.reverse_cons, List.append_assoc]
      · rfl
      · exact fun _ _ _ hc _ => hquote hc
      · exact fun _ hc => hsemicolon hc
      · exact nofun

/-- A parameter as it is written: a name in lower case and a value of the characters of a token. -/
theorem parameter_eq (name : List Char) {value : List Char} (hsome : name ≠ [])
    (hname : ∀ c ∈ name, MediaType.isTokenChar c = true) (hlower : name.map Char.toLower = name)
    (hcharset : name ≠ "charset".toList)
    (hvalue : ∀ c ∈ value, MediaType.isTokenChar c = true ∧ c ≠ '"') :
    parameter true (' ' :: (name ++ '=' :: value))
      = some ((String.ofList name, String.ofList value), ' ' :: (name ++ '=' :: value)) := by
  have hblanks : (' ' :: (name ++ '=' :: value)).takeWhile (· = ' ') = [' '] := by
    obtain ⟨c, more, rfl⟩ := List.exists_cons_of_ne_nil hsome
    have hc : c ≠ ' ' := fun h => absurd (hname c List.mem_cons_self) (h ▸ by decide)
    rw [List.takeWhile_cons_of_pos (by decide), List.cons_append,
      List.takeWhile_cons_of_neg (by simpa using hc)]
  have htake : (name ++ '=' :: value).takeWhile MediaType.isTokenChar = name := by
    rw [List.takeWhile_append_of_pos hname, List.takeWhile_cons_of_neg (by decide), List.append_nil]
  have hhead : value.head? ≠ some '"' := fun h => (hvalue '"' (List.mem_of_head? h)).2 rfl
  have hall : value.all MediaType.isTokenChar = true :=
    List.all_eq_true.mpr fun c hc => (hvalue c hc).1
  have hnonempty : (!name.isEmpty) = true := by simpa using hsome
  unfold parameter
  simp only [hblanks, List.length_singleton, List.drop_succ_cons, List.drop_zero, htake, hnonempty,
    guard, if_true, List.drop_left, hhead, if_false, hall, Bool.true_or, Bool.and_self, hlower,
    if_neg hcharset]
  rfl

end ContentType

end GraphServe.Http

namespace GraphServe

/-- A value that was put under a name is found there. -/
theorem Headers.get?_insert (h : Headers) (name value : String) :
    (h.insert name value).get? name = some value := by
  have hnone : (h.erase name).fields.lookup (lower name) = none :=
    List.lookup_eq_none_iff.mpr fun field hfield => by
      have hother : field.1 ≠ lower name := of_decide_eq_true (List.mem_filter.mp hfield).2
      exact bne_iff_ne.mpr hother.symm
  rw [insert, get?, append, List.lookup_append, hnone, Option.none_or, List.lookup_cons,
    beq_self_eq_true]

end GraphServe
