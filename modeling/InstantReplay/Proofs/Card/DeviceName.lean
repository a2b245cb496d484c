import InstantReplay.Proofs.Card.Export
import InstantReplay.Proofs.Card.Record
import InstantReplay.Proofs.Files.Path
import InstantReplay.Proofs.Text.Blank
import InstantReplay.Proofs.Text.Numeral

/-!
# What device names stand for

A grammar says which names are read and what they stand for (`DeviceName.Names`). What is read is
read again from the text that it is shown as, with the same plane or with another one
(`DeviceName.Names.names_text`, `DeviceName.names_text_plane`). Where the card is follows from its
name alone (`DeviceName.resolved_path`).
-/

namespace InstantReplay

variable {chars card digits : List Char} {text : String} {name : DeviceName}

theorem isBlank_of_isDigit {c : Char} (hdigit : c.isDigit) : isBlank c = false := by
  have hrange : 48 ≤ c.toNat ∧ c.toNat ≤ 57 := by
    rw [Char.isDigit, Bool.and_eq_true, decide_eq_true_iff, decide_eq_true_iff] at hdigit
    exact hdigit
  simp only [isBlank, Bool.or_eq_false_iff, Bool.and_eq_false_iff, decide_eq_false_iff_not,
    beq_eq_false_iff_ne]
  omega

namespace DeviceName

/-! ## The grammar -/

/-- The characters are no name, or `auto` in small or large letters. -/
def IsDefault (chars : List Char) : Prop :=
  chars = [] ∨ chars.map Char.toLower = ['a', 'u', 't', 'o']

/-- The characters can name a card. -/
structure IsCard (chars : List Char) : Prop where
  ne_nil : chars ≠ []
  slash_notMem : '/' ∉ chars
  colon_notMem : ':' ∉ chars

/-- What a text without blanks at its ends stands for. Only as a whole is it a default, and blanks
inside it belong to the card. -/
inductive Names : List Char → DeviceName → Prop
  | default {chars : List Char} (hdefault : IsDefault chars) : Names chars ⟨"card0", none⟩
  | card {chars : List Char} (hdefault : ¬IsDefault chars) (hcard : IsCard chars) :
      Names chars ⟨String.ofList chars, none⟩
  | plane {card digits : List Char} {plane : UInt32} (hcard : IsCard card)
      (hdigits : Numeral.Spells digits plane.toNat) :
      Names (card ++ ':' :: digits) ⟨String.ofList card, some plane⟩

theorem isCard_defaultCard : IsCard defaultCard.toList := by
  constructor <;> simp [defaultCard]

theorem isDefault_iff :
    (chars.isEmpty ∨ lowerAscii chars = ['a', 'u', 't', 'o']) ↔ IsDefault chars := by
  rw [List.isEmpty_iff]
  rfl

theorem IsDefault.colon_notMem (hdefault : IsDefault chars) : ':' ∉ chars := by
  intro hcolon
  rcases hdefault with rfl | hauto
  · cases hcolon
  · have hlower : ':' ∈ chars.map Char.toLower := List.mem_map.2 ⟨':', hcolon, rfl⟩
    rw [hauto] at hlower
    simp at hlower

theorem cut_append (hcolon : ':' ∉ card) : cut (card ++ ':' :: digits) = (card, some digits) := by
  induction card with
  | nil => rfl
  | cons c card ih =>
    rw [List.mem_cons, not_or] at hcolon
    rw [List.cons_append, cut, if_neg (Ne.symm hcolon.1), ih hcolon.2]

theorem cut_of_notMem (hcolon : ':' ∉ chars) : cut chars = (chars, none) := by
  induction chars with
  | nil => rfl
  | cons c chars ih =>
    rw [List.mem_cons, not_or] at hcolon
    rw [cut, if_neg (Ne.symm hcolon.1), ih hcolon.2]

theorem checkCard_eq_ok_iff (hcolon : ':' ∉ chars) {shown : String} {plane : Option UInt32} :
    checkCard shown chars plane = .ok name ↔ IsCard chars ∧ name = ⟨String.ofList chars, plane⟩ := by
  rw [checkCard]
  by_cases hbad : chars.isEmpty ∨ '/' ∈ chars
  · rw [if_pos hbad]
    refine ⟨nofun, fun ⟨hcard, _⟩ => ?_⟩
    rcases hbad with hempty | hslash
    · exact absurd (List.isEmpty_iff.1 hempty) hcard.ne_nil
    · exact absurd hslash hcard.slash_notMem
  · rw [if_neg hbad, Except.ok.injEq]
    rw [not_or, List.isEmpty_iff] at hbad
    exact ⟨fun h => ⟨⟨hbad.1, hbad.2, hcolon⟩, h.symm⟩, fun h => h.2.symm⟩

/-! ### Reading -/

theorem parse_default (hdefault : IsDefault (trim text.toList)) :
    parse text = .ok ⟨"card0", none⟩ := by
  rw [parse, if_pos (isDefault_iff.2 hdefault)]
  rfl

theorem parse_card (hdefault : ¬IsDefault (trim text.toList)) (hcolon : ':' ∉ trim text.toList) :
    parse text = .ok name ↔
      IsCard (trim text.toList) ∧ name = ⟨String.ofList (trim text.toList), none⟩ := by
  rw [parse, if_neg (mt isDefault_iff.1 hdefault), cut_of_notMem hcolon]
  exact checkCard_eq_ok_iff hcolon

theorem parse_plane (htrim : trim text.toList = card ++ ':' :: digits) (hcolon : ':' ∉ card) :
    parse text = .ok name ↔ IsCard card ∧ ∃ plane : UInt32,
      Numeral.Spells digits plane.toNat ∧ name = ⟨String.ofList card, some plane⟩ := by
  have hdefault : ¬IsDefault (card ++ ':' :: digits) := fun h => h.colon_notMem (by simp)
  rw [parse, htrim, if_neg (mt isDefault_iff.1 hdefault), cut_append hcolon]
  dsimp only
  simp only [← Numeral.word32?_eq_some_iff]
  cases hplane : Numeral.word32? digits with
  | none => simp
  | some plane =>
    rw [checkCard_eq_ok_iff hcolon]
    simp

/-- What is read is what the text stands for without the blanks at its ends. -/
theorem parse_eq_ok_iff : parse text = .ok name ↔ Names (trim text.toList) name := by
  constructor
  · intro h
    by_cases hdefault : IsDefault (trim text.toList)
    · rw [parse_default hdefault, Except.ok.injEq] at h
      rw [← h]
      exact .default hdefault
    · by_cases hcolon : ':' ∈ trim text.toList
      · obtain ⟨card, digits, htrim, hbefore⟩ := List.eq_append_cons_of_mem hcolon
        obtain ⟨hcard, plane, hdigits, rfl⟩ := (parse_plane htrim hbefore).1 h
        rw [htrim]
        exact .plane hcard hdigits
      · obtain ⟨hcard, rfl⟩ := (parse_card hdefault hcolon).1 h
        exact .card hdefault hcard
  · intro h
    generalize htrim : trim text.toList = chars at h
    cases h with
    | default hdefault =>
      rw [← htrim] at hdefault
      exact parse_default hdefault
    | card hdefault hcard =>
      rw [← htrim] at hdefault hcard ⊢
      exact (parse_card hdefault hcard.colon_notMem).2 ⟨hcard, rfl⟩
    | plane hcard hdigits =>
      exact (parse_plane htrim hcard.colon_notMem).2 ⟨hcard, _, hdigits, rfl⟩

/-! ## Shown and read again -/

/-- A name with a plane begins with its card and ends with a digit, so that no blanks are taken
off when it is read again. -/
theorem names_text_plane {host : String} (hcard : IsCard host.toList)
    (hhead : ∀ c ∈ host.toList.head?, isBlank c = false) (plane : UInt32) :
    Names (trim (DeviceName.text ⟨host, some plane⟩).toList) ⟨host, some plane⟩ := by
  have hchars : (DeviceName.text ⟨host, some plane⟩).toList =
      host.toList ++ ':' :: (toString plane.toNat).toList := by
    simp [DeviceName.text, String.toList_append]
  rw [hchars, trim_eq_self]
  · have hnames := Names.plane hcard (Numeral.spells_toString plane.toNat)
    rwa [String.ofList_toList] at hnames
  · intro c hc
    rw [List.head?_append_of_ne_nil _ hcard.ne_nil] at hc
    exact hhead c hc
  · intro c hc
    rw [List.append_cons, List.getLast?_append_of_ne_nil _ (Numeral.toString_ne_nil _)] at hc
    exact isBlank_of_isDigit (Numeral.isDigit_of_mem_toString (List.mem_of_getLast? hc))

/-- The card of a name that stands in a text without blanks at its ends begins with no blank. -/
theorem Names.isCard (h : Names chars name) (htrim : trim chars = chars) :
    IsCard name.card.toList ∧ ∀ c ∈ name.card.toList.head?, isBlank c = false := by
  have hhead : ∀ c ∈ chars.head?, isBlank c = false := by
    rw [← htrim]
    exact fun c => head?_trim
  cases h with
  | default =>
    refine ⟨isCard_defaultCard, ?_⟩
    rintro c ⟨⟩
    rfl
  | card _ hcard =>
    rw [String.toList_ofList]
    exact ⟨hcard, hhead⟩
  | plane hcard =>
    rw [String.toList_ofList]
    refine ⟨hcard, fun c hc => hhead c ?_⟩
    rw [List.head?_append_of_ne_nil _ hcard.ne_nil]
    exact hc

theorem Names.names_text (h : Names chars name) (htrim : trim chars = chars) :
    Names (trim name.text.toList) name := by
  cases h with
  | default =>
    have hnamed : Names defaultCard.toList ⟨"card0", none⟩ :=
      .card (fun hdefault => by simp [IsDefault, defaultCard] at hdefault) isCard_defaultCard
    exact hnamed
  | card hdefault hcard =>
    show Names (trim (String.ofList chars).toList) _
    rw [String.toList_ofList, htrim]
    exact .card hdefault hcard
  | plane hcard hdigits =>
    obtain ⟨hcard, hhead⟩ := Names.isCard (.plane hcard hdigits) htrim
    exact names_text_plane hcard hhead _

theorem parse_text (h : parse text = .ok name) : parse name.text = .ok name := by
  rw [parse_eq_ok_iff] at h ⊢
  exact h.names_text (trim_trim _)

theorem parse_text_withPlane (h : parse text = .ok name) (plane : UInt32) :
    parse (DeviceName.text ⟨name.card, some plane⟩) = .ok ⟨name.card, some plane⟩ := by
  rw [parse_eq_ok_iff] at h ⊢
  obtain ⟨hcard, hhead⟩ := h.isCard (trim_trim _)
  exact names_text_plane hcard hhead plane

end DeviceName

/-! ## What a session announces -/

section Announced

variable {κ : Type} {driver : CardDriver κ} {host : Card} {session : PlaneSession}

theorem Card.path_of_openAt {path : String} (h : Act.Yields (Card.openAt driver path) host) :
    host.path = path := by
  obtain ⟨opened, -, h⟩ := h.exists_of_bind
  rcases opened with failure | ⟨⟩
  · exact absurd h Act.not_yields_throw
  · obtain ⟨shown, -, h⟩ := h.exists_of_bind
    rcases shown with failure | ⟨⟩
    · exact absurd h Act.not_yields_throw
    · obtain ⟨⟨⟩, -, h⟩ := h.exists_of_bind
      rw [h.eq_of_pure]

/-- The card that a backend keeps open is the one that it has the name of. -/
theorem PlaneBackend.path_of_openOn {home : String} {backend : PlaneBackend}
    (h : Act.Yields (PlaneBackend.openOn driver home) backend) :
    backend.card.path = Path.join DeviceName.directory backend.name := by
  obtain ⟨name, -, h⟩ := h.exists_of_bind
  obtain ⟨card, hcard, h⟩ := h.exists_of_bind
  obtain ⟨⟨⟩, -, h⟩ := h.exists_of_bind
  rw [h.eq_of_pure]
  exact Card.path_of_openAt hcard

theorem PlaneSession.announced_of_openPlane {hostName : String} {framerate : Int32}
    {plane : UInt32}
    (h : Act.Yields (PlaneSession.openPlane driver host hostName framerate plane) session) :
    session.card = host ∧
      session.params.device = DeviceName.text ⟨hostName, some session.plane⟩ := by
  obtain ⟨state, -, h⟩ := h.exists_of_bind
  by_cases hdark : state.framebuffer = 0
  · rw [if_pos hdark] at h
    exact absurd h Act.not_yields_throw
  · rw [if_neg hdark] at h
    obtain ⟨buffer, -, h⟩ := h.exists_of_bind
    obtain ⟨⟨⟩, -, h⟩ := h.exists_of_bind
    obtain ⟨⟨⟩, -, h⟩ := h.exists_of_bind
    rw [h.eq_of_pure]
    exact ⟨rfl, rfl⟩

theorem PlaneSession.announced_of_openOn {framerate : Int32}
    (h : Act.Yields (PlaneSession.openOn driver host name framerate) session) :
    session.card = host ∧
      session.params.device = DeviceName.text ⟨name.card, some session.plane⟩ := by
  rw [PlaneSession.openOn_eq] at h
  obtain ⟨planes, -, h⟩ := h.exists_of_bind
  obtain ⟨plane, -, h⟩ := h.exists_of_bind
  exact PlaneSession.announced_of_openPlane h

/-- A session announces the card and the plane that it is on. -/
theorem PlaneBackend.announced_of_openSession {home device : String} {framerate : Int32}
    {backend : PlaneBackend} (hbackend : Act.Yields (PlaneBackend.openOn driver home) backend)
    (h : Act.Yields (backend.openSession driver device framerate) session) :
    ∃ name, DeviceName.parse device = .ok name ∧ session.card.path = name.path ∧
      session.params.device = DeviceName.text ⟨name.card, some session.plane⟩ := by
  obtain ⟨name, hname, h⟩ := h.exists_of_bind
  have hcard : ∃ card : Card, card.path = name.path ∧
      Act.Yields (PlaneSession.openOn driver card name framerate) session := by
    by_cases hsame : name.card = backend.name
    · rw [if_pos hsame] at h
      refine ⟨backend.card, ?_, h⟩
      rw [PlaneBackend.path_of_openOn hbackend, DeviceName.path, hsame]
    · rw [if_neg hsame] at h
      obtain ⟨card, hopened, h⟩ := h.exists_of_bind
      exact ⟨card, Card.path_of_openAt hopened, h⟩
  obtain ⟨card, hpath, h⟩ := hcard
  obtain ⟨rfl, hdevice⟩ := PlaneSession.announced_of_openOn h
  exact ⟨name, hname.eq_of_ofExcept, hpath, hdevice⟩

end Announced

namespace DeviceName

/-- The texts that are read are those of the grammar; what is read is read again from the text
that it is shown as; and so is, from the name that a session announces, the card and the plane that
the session is on. -/
theorem parse_shown :
    (∀ text name, parse text = .ok name ↔ Names (trim text.toList) name) ∧
    (∀ text name, parse text = .ok name → parse name.text = .ok name) ∧
    ∀ {κ : Type} (driver : CardDriver κ) (home device : String) (framerate : Int32)
      (backend : PlaneBackend) (session : PlaneSession),
      Act.Yields (PlaneBackend.openOn driver home) backend →
      Act.Yields (backend.openSession driver device framerate) session →
      ∃ name announced, parse device = .ok name ∧
        parse session.params.device = .ok announced ∧
        announced.card = name.card ∧ announced.path = session.card.path ∧
        announced.plane = some session.plane := by
  refine ⟨fun _ _ => parse_eq_ok_iff, fun _ _ => parse_text, ?_⟩
  intro κ driver home device framerate backend session hbackend hsession
  obtain ⟨name, hname, hpath, hdevice⟩ := PlaneBackend.announced_of_openSession hbackend hsession
  refine ⟨name, ⟨name.card, some session.plane⟩, hname, ?_, rfl, hpath.symm, rfl⟩
  rw [hdevice]
  exact parse_text_withPlane hname session.plane

/-- A name with a sign, a leading zero and blanks around it is read again as what it is shown as;
so is the name that a session on the first card announces. -/
theorem parse_shown_folded :
    parse " AUTO:+031 " = .ok ⟨"AUTO", some 31⟩ ∧
    parse (DeviceName.text ⟨"AUTO", some 31⟩) = .ok ⟨"AUTO", some 31⟩ ∧
    ∃ backend session, Act.Yields (PlaneBackend.openOn CardWorld.driver "") backend ∧
      Act.Yields (backend.openSession CardWorld.driver "Auto" 30) session ∧
      ∃ name announced, parse "Auto" = .ok name ∧
        parse session.params.device = .ok announced ∧
        announced.card = name.card ∧ announced.path = session.card.path ∧
        announced.plane = some session.plane := by
  obtain ⟨-, hreread, hannounced⟩ := parse_shown
  have hparse : parse " AUTO:+031 " = .ok ⟨"AUTO", some 31⟩ := by decide +kernel
  have hbackend : Act.Yields (PlaneBackend.openOn CardWorld.driver "")
      ⟨⟨"/dev/dri/card0"⟩, "card0"⟩ := by
    apply Act.yields_of_run ⟨.folded, []⟩
    decide +kernel
  have hsession : Act.Yields
      (PlaneBackend.openSession CardWorld.driver ⟨⟨"/dev/dri/card0"⟩, "card0"⟩ "Auto" 30)
      ⟨⟨"/dev/dri/card0"⟩, 1, ⟨"card0:1", 64, 64, .nv12, .unknown, 30⟩⟩ := by
    apply Act.yields_of_run ⟨.folded, []⟩
    decide +kernel
  exact ⟨hparse, hreread _ _ hparse, _, _, hbackend, hsession,
    hannounced _ _ _ _ _ _ hbackend hsession⟩

/-! ## The place of a card -/

/-- The path of the card leads to a node of the directory of the cards. -/
def IsNode (name : DeviceName) : Prop :=
  ∃ node, Path.resolved name.path = Path.resolved directory ++ [node]

theorem resolved_directory : Path.resolved directory = ["dev", "dri"] := by decide +kernel

theorem resolved_path (h : parse text = .ok name) :
    Path.resolved name.path =
      if name.card = "." then ["dev", "dri"]
      else if name.card = ".." then ["dev"]
      else ["dev", "dri", name.card] := by
  obtain ⟨hcard, _⟩ := (parse_eq_ok_iff.1 h).isCard (trim_trim _)
  have hvoid : Path.isVoid name.card = (name.card == ".") := by
    have hempty : name.card ≠ "" := fun hempty => hcard.ne_nil (by rw [hempty]; rfl)
    simp [Path.isVoid, hempty]
  rw [path, Path.resolved_join hcard.slash_notMem (by decide) (by decide), hvoid, resolved_directory]
  simp [Path.follow]

/-- A name that is read leads to a node of the directory of the cards unless its card is one of
the two names that stand for a directory: these lead to the directory itself and out of it. -/
theorem isNode_iff (h : parse text = .ok name) :
    (name.IsNode ↔ name.card ≠ "." ∧ name.card ≠ "..") ∧
    Path.resolved name.path =
      if name.card = "." then ["dev", "dri"]
      else if name.card = ".." then ["dev"]
      else ["dev", "dri", name.card] := by
  refine ⟨?_, resolved_path h⟩
  rw [IsNode, resolved_path h, resolved_directory]
  by_cases hself : name.card = "."
  · simp [hself]
  · by_cases habove : name.card = ".."
    · simp [habove]
    · simp [hself, habove]

/-- A plain card is a node of the directory. -/
theorem isNode_iff_card0 : parse "card0:31" = .ok ⟨"card0", some 31⟩ ∧
    (IsNode ⟨"card0", some 31⟩ ↔ "card0" ≠ "." ∧ "card0" ≠ "..") ∧
    Path.resolved (path ⟨"card0", some 31⟩) = ["dev", "dri", "card0"] := by
  have hparse : parse "card0:31" = .ok ⟨"card0", some 31⟩ := by decide +kernel
  exact ⟨hparse, isNode_iff hparse⟩

/-- The name of the directory above passes as the name of a card. -/
theorem not_isNode_above : parse ".." = .ok ⟨"..", none⟩ ∧ ¬IsNode ⟨"..", none⟩ := by
  have hresolved : Path.resolved (path ⟨"..", none⟩) = ["dev"] := by decide +kernel
  refine ⟨by decide +kernel, ?_⟩
  rintro ⟨node, hnode⟩
  rw [hresolved, resolved_directory] at hnode
  cases hnode

end DeviceName

end InstantReplay
