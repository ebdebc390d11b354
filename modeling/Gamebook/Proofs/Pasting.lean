import Gamebook.Expr.Value
import Gamebook.Proofs.Groups
import Gamebook.Proofs.Numerals

/-!
# Numbers in place of variables

A number may stand for a variable in every place, and so may a minus with a number, since it binds
tighter than every operator between operands. So an expression with groups in braces is, once these
are filled in, the expression with variables in their places where the variables are bound. Main
definitions: `Expr.bind`, `Token.paste`, `braced`. Main statement: `Expr.ofTokens_paste`.
-/

namespace Gamebook

/-- The text of the leaf at a path, if there is one. -/
def Sheet.leafText (sheet : Sheet) (path : String) : List Char :=
  match sheet.get? path with
  | some leaf => leaf.display.toList
  | none => []

/-- Whether a path can stand in a group, and leads to a leaf that is displayed as a numeral. -/
structure Sheet.Shows (sheet : Sheet) (path : String) (n : Numeral) : Prop where
  /-- The path has no opening brace. -/
  opening : '{' ∉ path.toList
  /-- The path has no closing brace. -/
  closing : '}' ∉ path.toList
  /-- There is a leaf. -/
  found : (sheet.get? path).isSome = true
  /-- The leaf is displayed as the numeral. -/
  writes : n.Writes (sheet.leafText path)

/-- Every finite number is shown as a numeral. -/
lemma Sheet.exists_shows {sheet : Sheet} {path : String} {x : Float} (hopen : '{' ∉ path.toList)
    (hclose : '}' ∉ path.toList) (hget : sheet.get? path = some (.number x))
    (hx : x.isFinite = true) : ∃ n, sheet.Shows path n := by
  obtain ⟨n, hn⟩ := Numeral.exists_writes hx
  refine ⟨n, hopen, hclose, by rw [hget]; rfl, ?_⟩
  rw [leafText, hget]
  exact hn

/-- The expression with a numeral for each variable. -/
def Expr.bind (image : String → Numeral) : Expr → Expr
  | number x => .number x
  | bool b => .bool b
  | var name => (image name).expr
  | dice count sides => .dice count sides
  | unary op operand => .unary op (operand.bind image)
  | binary op left right => .binary op (left.bind image) (right.bind image)

/-- The tokens that stand for a token: those of a numeral for a name. -/
def Token.paste (image : String → Numeral) : Token → List Token
  | ident name => (image name).tokens
  | token => [token]

variable {image : String → Numeral}

lemma Token.paste_of_ne {t : Token} (h : ∀ name, t ≠ .ident name) : t.paste image = [t] := by
  rw [paste]
  exact h

/-- No names are left. -/
lemma Token.ne_ident_of_mem_paste {t u : Token} (h : u ∈ t.paste image) (name : String) :
    u ≠ .ident name := by
  rintro rfl
  cases t with
  | ident other =>
    rw [paste] at h
    generalize image other = n at h
    cases n with
    | number x => simp [Numeral.tokens] at h
    | negated x => simp [Numeral.tokens] at h
  | _ => simp [paste] at h

lemma UnaryOp.paste_token {op : UnaryOp} : op.token.paste image = [op.token] := by
  cases op <;> rfl

/-- Numerals for the names in a printing make a printing where the variables are bound. -/
lemma Expr.Spelled.paste {level e ts} (image : String → Numeral) (h : Spelled level e ts)
    (hl : level ≤ tightLevel) :
    Spelled level (e.bind image) (ts.flatMap (Token.paste image)) := by
  induction h with
  | number => exact .number
  | bool => exact .bool
  | @var level name =>
    rw [List.flatMap_cons, List.flatMap_nil, List.append_nil, bind, Token.paste]
    cases image name with
    | number x => exact .number
    | negated x => exact @Spelled.unary _ .neg _ _ hl .number
  | dice => exact .dice
  | bracket h ih =>
    rw [List.flatMap_append, List.flatMap_cons]
    exact .bracket (ih (Nat.zero_le _))
  | unary hlevel h ih =>
    rw [List.flatMap_cons, UnaryOp.paste_token]
    exact .unary hlevel (ih (Nat.le_refl _))
  | binary hlevel hleft hright ihl ihr =>
    rw [List.flatMap_append, List.flatMap_cons]
    exact .binary hlevel (ihl BinaryOp.leftLevel_le) (ihr BinaryOp.rightLevel_le)

namespace Token

/-- The part of a text that a token takes up, or another text for a name. -/
def Located.written (write : String → List Char) (text : String) (l : Located) : List Char :=
  match l.token with
  | .ident name => write name
  | _ => l.slice text

/-- A text from an offset between its tokens on, with other texts for the names. -/
def writeNames (write : String → List Char) (text : String) :
    (start : Nat) → List Located → List Char
  | start, [] => Text.charsBetween start (Text.byteSize text.toList) 0 text.toList
  | start, l :: ls =>
    Text.charsBetween start l.start 0 text.toList ++
      (l.written write text ++ writeNames write text l.stop ls)

end Token

/-- The text with a group in braces for each name, where paths are given for the names. -/
def braced (path : String → String) (text : String) : String :=
  match Token.scan text with
  | .error _ => text
  | .ok located =>
    .ofList (Token.writeNames (fun name => '{' :: ((path name).toList ++ ['}'])) text 0 located)

namespace Token

/-- A slice, or another text for a name. -/
def Slice.written (write : String → List Char) (s : Slice) : List Char :=
  match s.token with
  | .ident name => write name
  | _ => s.text

lemma Slice.written_of_ne {write : String → List Char} (s : Slice)
    (h : ∀ name, s.token ≠ .ident name) : s.written write = s.text := by
  rw [Slice.written]
  split
  · next name e => exact (h name e).elim
  · rfl

/-- A slice with its gaps, or another text for a name. -/
def Placed.written (write : String → List Char) (p : Placed) : List Char :=
  p.before.text ++ (p.slice.written write ++ p.after.text)

variable {offset : Nat} {cs : List Char} {ps : List Placed} {ls : List Located}

/-- A text with other texts for the names consists of the gaps, the slices and these texts. -/
lemma Cut.writeNames {text : String} (start : List Char) (h : Cut (Text.byteSize start) cs ps ls)
    (htext : text.toList = start ++ cs) :
    ∃ last : Gap, ∀ write, writeNames write text (Text.byteSize start) ls =
      ps.flatMap (Placed.written write) ++ last.text := by
  generalize ho : Text.byteSize start = offset at h
  induction h generalizing start with
  | gap gap =>
    refine ⟨gap, fun write => ?_⟩
    subst ho
    have hlast := Text.charsBetween_part start gap.text []
    rw [List.append_nil, ← Text.byteSize_append, ← htext] at hlast
    exact hlast
  | @slice offset rest ps ls s before _ _ ih =>
    subst ho
    have hgap := Text.charsBetween_part start before.text (s.text ++ rest)
    have hslice := Text.charsBetween_part (start ++ before.text) s.text rest
    rw [← htext] at hgap
    rw [← List.append_assoc] at htext
    rw [← htext, Text.byteSize_append] at hslice
    obtain ⟨last, hrest⟩ := ih (start ++ before.text ++ s.text)
      (by rw [htext, List.append_assoc _ s.text])
      (by rw [Text.byteSize_append, Text.byteSize_append])
    refine ⟨last, fun write => ?_⟩
    have hslice : Located.slice ⟨s.token, Text.byteSize start + Text.byteSize before.text,
        Text.byteSize start + Text.byteSize before.text + Text.byteSize s.text⟩ text = s.text :=
      hslice
    rw [Token.writeNames, Located.written, hslice, hgap, hrest, List.flatMap_cons, Placed.written,
      Slice.written]
    simp [Gap.none]

section Filling

/-- What stands in no gap and not in the slice does not stand in a slice with its gaps. -/
lemma Placed.not_mem {c : Char} (p : Placed) (hgap : Token.isGap c = false) (h : c ∉ p.slice.text) :
    c ∉ p.text := by
  rw [text, List.mem_append, List.mem_append, not_or, not_or]
  exact ⟨p.before.not_mem hgap, h, p.after.not_mem hgap⟩

variable {shown : String → List Char}

/-- Numerals in place of the names leave slices apart. -/
lemma exists_pasted (image : String → Numeral)
    (ha : ps.IsChain fun p q => (∀ name, p.slice.token ≠ .ident name) → p.Apart q)
    (hw : ∀ p ∈ ps, ∀ name, p.slice.token = .ident name → (image name).Writes (shown name)) :
    ∃ qs : List Placed, qs.flatMap Placed.text = ps.flatMap (Placed.written shown) ∧
      qs.map (·.slice.token) = (ps.map (·.slice.token)).flatMap (Token.paste image) ∧
      qs.IsChain Placed.Apart ∧
      ∀ p' : Placed, (∀ p ∈ ps.head?, p'.Apart p) → ∀ q ∈ qs.head?, p'.Apart q := by
  induction ps with
  | nil => exact ⟨[], rfl, rfl, .nil, fun _ h => h⟩
  | cons p ps ih =>
    rw [List.isChain_cons] at ha
    rw [List.forall_mem_cons] at hw
    obtain ⟨qs, htext, htokens, hchain, hhead⟩ := ih ha.2 hw.2
    rw [List.flatMap_cons, List.map_cons, List.flatMap_cons, ← htext, ← htokens]
    by_cases hname : ∃ name, p.slice.token = .ident name
    · obtain ⟨name, hname⟩ := hname
      obtain ⟨first, more, hfirst, htoken, hnumeral, hbefore, hafter⟩ :=
        exists_numeral (hw.1 name hname) hname
      refine ⟨first :: more ++ qs, ?_, ?_, ?_, ?_⟩
      · rw [List.flatMap_append, hfirst, Placed.written, Slice.written, hname]
      · rw [List.map_append, htoken, hname, Token.paste]
      · exact List.isChain_append.2 ⟨hnumeral, hchain, fun q hq p' _ => hafter q hq p'⟩
      · rintro p' hp' q ⟨⟩
        exact hbefore p' (hp' p rfl)
    · have hother := not_exists.1 hname
      refine ⟨p :: qs, ?_, ?_, ?_, fun p' hp' => hp'⟩
      · rw [List.flatMap_cons, Placed.written, p.slice.written_of_ne hother, Placed.text]
      · rw [List.map_cons, Token.paste_of_ne hother, List.singleton_append]
      · exact List.isChain_cons.2 ⟨hhead p fun q hq => ha.1 q hq hother, hchain⟩

/-- A pass writes the leaves for the groups. -/
lemma substitutePass_written {sheet : Sheet} {path : String → String} {last : Gap}
    (hshows : ∀ p ∈ ps, ∀ name, p.slice.token = .ident name → ∃ n, sheet.Shows (path name) n) :
    substitutePass sheet
        (ps.flatMap (Placed.written fun name => '{' :: ((path name).toList ++ ['}'])) ++
          last.text) =
      ps.flatMap (Placed.written fun name => sheet.leafText (path name)) ++ last.text := by
  have gap (gap : Gap) {rest : List Char} :
      substitutePass sheet (gap.text ++ rest) = gap.text ++ substitutePass sheet rest :=
    substitutePass_append (gap.not_mem rfl) (gap.not_mem rfl)
  induction ps with
  | nil => exact substitutePass_of_not_mem (last.not_mem rfl)
  | cons p ps ih =>
    rw [List.forall_mem_cons] at hshows
    simp only [List.flatMap_cons, Placed.written, List.append_assoc]
    rw [gap]
    by_cases hname : ∃ name, p.slice.token = .ident name
    · obtain ⟨name, hname⟩ := hname
      obtain ⟨n, hn⟩ := hshows.1 name hname
      obtain ⟨leaf, hleaf⟩ := Option.isSome_iff_exists.1 hn.found
      simp only [Slice.written, hname, List.cons_append, List.append_assoc, List.nil_append]
      rw [substitutePass_group hn.opening hn.closing (by rwa [String.ofList_toList]), gap,
        ih hshows.2, Sheet.leafText, hleaf]
    · have hother := not_exists.1 hname
      rw [p.slice.written_of_ne hother, p.slice.written_of_ne hother, substitutePass_append, gap,
        ih hshows.2]
      · exact Slice.not_mem rfl (by decide) (by decide)
      · exact Slice.not_mem rfl (by decide) (by decide)

end Filling

end Token

open Token in
/-- A text with groups for its names is, once it is filled in, the expression with numerals. -/
lemma Expr.read_braced {text : String} {located : List Located} {e : Expr} {path : String → String}
    {sheet : Sheet} (hscan : scan text = .ok located)
    (he : ofTokens (located.map (·.token)) = .ok e)
    (hshows : ∀ name, .ident name ∈ located.map (·.token) → sheet.Shows (path name) (image name)) :
    read (substitute sheet (braced path text)) = .ok (e.bind image) := by
  obtain ⟨ps, cut⟩ := exists_cut hscan
  obtain ⟨last, hwritten⟩ := cut.writeNames [] rfl
  have hfollows := follows_of_ofTokens he
  have hpaste := ofTokens_eq_ok_iff.2 ((ofTokens_eq_ok_iff.1 he).paste image (Nat.zero_le _))
  rw [cut.token_eq] at hfollows hpaste hshows
  rw [List.isChain_map] at hfollows
  have hshows :
      ∀ p ∈ ps, ∀ name, p.slice.token = .ident name → sheet.Shows (path name) (image name) :=
    fun p hp name hname => hshows name (hname ▸ List.mem_map_of_mem hp)
  -- what the groups are filled in with are slices again, and they are as far apart as before
  obtain ⟨qs, htext, htokens, happart, -⟩ := exists_pasted image
    (cut.isChain_apart hfollows) fun p hp name hname => (hshows p hp name hname).writes
  rw [← htokens] at hpaste
  have hpass :
      substitutePass sheet (braced path text).toList = qs.flatMap Placed.text ++ last.text := by
    rw [braced, hscan]
    simp only [String.toList_ofList]
    rw [htext, ← substitutePass_written fun p hp name hname => ⟨_, hshows p hp name hname⟩]
    exact congrArg _ (hwritten _)
  have hclose : '}' ∉ qs.flatMap Placed.text ++ last.text := by
    rw [List.mem_append, not_or, List.mem_flatMap]
    refine ⟨fun ⟨q, _, hq⟩ => ?_, last.not_mem rfl⟩
    exact q.not_mem rfl (Slice.not_mem rfl (by decide) (by decide)) hq
  have hnames : ∀ q ∈ qs, ∀ name, q.slice.token ≠ .ident name := by
    intro q hq
    have hmem := List.mem_map_of_mem (f := (·.slice.token)) hq
    rw [htokens, List.mem_flatMap] at hmem
    obtain ⟨t, -, ht⟩ := hmem
    exact Token.ne_ident_of_mem_paste ht
  obtain ⟨ls, hls, hlsTokens⟩ := scanFrom_placed 0 last hnames
    ((List.isChain_map _).1 (follows_of_ofTokens hpaste)) happart
  have hscan : scan (.ofList (qs.flatMap Placed.text ++ last.text)) = .ok ls := by
    rw [scan, String.toList_ofList, hls]
  rw [substitute_eq hpass hclose, read, hscan]
  simp only [hlsTokens, hpaste]

/--
An expression is read with a numeral in place of each name as the expression where the variables are
bound to the numerals. So a text with groups in braces for its names is read, once the groups are
filled in, as the expression where the variables are bound to what the leaves show.
-/
theorem Expr.ofTokens_paste {ts : List Token} {e : Expr} (h : ofTokens ts = .ok e)
    (image : String → Numeral) :
    ofTokens (ts.flatMap (Token.paste image)) = .ok (e.bind image) ∧
      ∀ (text : String) (located : List Token.Located) (path : String → String) (sheet : Sheet),
        Token.scan text = .ok located → located.map (·.token) = ts →
        (∀ name, .ident name ∈ ts → sheet.Shows (path name) (image name)) →
        read (substitute sheet (braced path text)) = .ok (e.bind image) := by
  constructor
  · exact ((ofTokens_eq_ok_iff.1 h).paste image (Nat.zero_le _)).ofTokens
  · rintro text located path sheet hscan rfl hshows
    exact read_braced hscan h hshows

/-- In `-strength ^luck`, a strength of three and a luck of minus two are read in their places. -/
theorem Expr.ofTokens_paste_hero :
    let ts : List Token := [.op .sub, .ident "strength", .op .pow, .ident "luck"]
    let image : String → Numeral := fun name => if name = "luck" then .negated 2 else .number 3
    let pasted : Expr := .binary .pow (.unary .neg (.number 3)) (.unary .neg (.number 2))
    let sheet := Sheet.ofList [("hero.strength", .number 3), ("hero.luck", .number (-2))]
    let text := "-\x7bhero.strength\x7d ^\x7bhero.luck\x7d"
    ofTokens ts = .ok (.binary .pow (.unary .neg (.var "strength")) (.var "luck")) ∧
      braced ("hero." ++ ·) "-strength ^luck" = text ∧ substitute sheet text = "-3 ^-2" ∧
      ofTokens (ts.flatMap (Token.paste image)) = .ok pasted ∧
      read (substitute sheet text) = .ok pasted := by
  intro ts image pasted sheet text
  have hread : ofTokens ts = .ok (.binary .pow (.unary .neg (.var "strength")) (.var "luck")) := by
    decide
  have hbraced : braced ("hero." ++ ·) "-strength ^luck" = text := by decide +kernel
  have htokens : (Token.scan "-strength ^luck").map (·.map (·.token)) = .ok ts := by decide +kernel
  have hstrength : sheet.Shows "hero.strength" (.number 3) := by
    refine ⟨by decide, by decide, by decide +kernel, ?_⟩
    rw [show sheet.leafText "hero.strength" = ['3'] by decide +kernel]
    exact .number (.whole ⟨by simp, List.forall_mem_singleton.2 rfl⟩) (by decide +kernel)
  have hluck : sheet.Shows "hero.luck" (.negated 2) := by
    refine ⟨by decide, by decide, by decide +kernel, ?_⟩
    rw [show sheet.leafText "hero.luck" = ['-', '2'] by decide +kernel]
    exact .negated (.whole ⟨by simp, List.forall_mem_singleton.2 rfl⟩) (by decide +kernel)
  obtain ⟨hpaste, htext⟩ := ofTokens_paste hread image
  refine ⟨hread, hbraced, by decide +kernel, hpaste, ?_⟩
  cases hscan : Token.scan "-strength ^luck" with
  | error fault =>
    rw [hscan] at htokens
    cases htokens
  | ok located =>
    rw [hscan] at htokens
    rw [← hbraced]
    refine htext _ located _ sheet hscan (Except.ok.inj htokens) fun name hname => ?_
    obtain rfl | rfl : name = "strength" ∨ name = "luck" := by simpa [ts] using hname
    · exact hstrength
    · exact hluck

end Gamebook
