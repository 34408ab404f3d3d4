import Mathlib.Data.List.Nodup
import Mathlib.Logic.Function.Basic
import OrderDesk.Proofs.Conversation.Presses
import OrderDesk.Proofs.Conversation.Watching

/-!
# What chats show

An onlooker of the chat knows which messages were sent and which of them were deleted, which albums
there are and what buttons were last put under a message (`Screen`).  The desk itself keeps none of
this: all it knows of an album are the message ids in the buttons that are pressed.

`Screen.Sound` is what has to be true for that to be enough.  The ids that the buttons under a message
carry are what is left of the album that goes with them, and no other message has any of these.  While
the album of one message is being changed, its buttons tell the wrong ids; `Sound (some p)` leaves the
message at `p` out, and `Screen.Spare` is what is known of the ids that its buttons are to carry next.
Everything that can happen on a screen, messages that arrive, an album, new buttons and a message that
is deleted, is shown here to keep a screen sound.
-/

namespace OrderDesk

open Chat (Button)

/-- Where a message is. -/
structure Place where
  chat : Int64
  message : Int32
  deriving DecidableEq, Repr

/-- The places of some messages of a chat. -/
def places (chat : Int64) (ids : List Int32) : List Place := ids.map (Place.mk chat)

/-- What chats show, and what they showed before. -/
structure Screen where
  /-- All messages that were sent. -/
  given : List Place
  /-- Messages that were deleted. -/
  deleted : List Place
  /-- The albums that were sent.  A text without a keyboard counts as an album without messages, since
  that is how an item without pictures is shown. -/
  albums : List (List Place)
  /-- The buttons that were last put under a message. -/
  buttons : Place → List Button
  /-- The album that goes with the buttons under a message. -/
  album : Place → List Place
  /-- The album that was sent last in the present dispatch, if there is one. -/
  latest : Option (List Place)
  /-- Calls that were to change a message that was not there. -/
  strays : List Chat.Call

/-- The message that a call is to change. -/
def Chat.Call.target? : Chat.Call → Option Place
  | sendText _ _ _ => none
  | sendAlbum _ _ => none
  | editPhoto chat message _ => some ⟨chat, message⟩
  | editButtons chat message _ => some ⟨chat, message⟩
  | delete chat message => some ⟨chat, message⟩

namespace Screen

/-- Nothing was ever sent. -/
def blank : Screen := ⟨[], [], [], fun _ => [], fun _ => [], none, []⟩

section Views

variable (s : Screen)

/-- The message is there. -/
def Live (p : Place) : Prop := p ∈ s.given ∧ p ∉ s.deleted

instance (p : Place) : Decidable (s.Live p) := inferInstanceAs (Decidable (_ ∧ _))

/-- The messages of an album that are not deleted yet. -/
def left (album : List Place) : List Place := album.filter (· ∉ s.deleted)

/-- A button that is displayed under a message carries these message ids. -/
def Carries (p : Place) (ids : List Int32) : Prop :=
  s.Live p ∧ ∃ b ∈ s.buttons p, b.ids? = some ids

instance (p : Place) (ids : List Int32) : Decidable (s.Carries p ids) :=
  inferInstanceAs (Decidable (_ ∧ _))

/-- The album that buttons go with if they are put under a message now. -/
def goesWith (p : Place) : List Place := s.latest.getD (s.album p)

/-- The event is a text, or the press of a button that is displayed. -/
def Offers : Chat.Event → Prop
  | .text _ _ _ => True
  | .press chat _ (some message) raw =>
    s.Live ⟨chat, message⟩ ∧ ∃ b ∈ s.buttons ⟨chat, message⟩, b.data = raw
  | .press _ _ none _ => False

instance : (event : Chat.Event) → Decidable (s.Offers event)
  | .text _ _ _ => isTrue trivial
  | .press _ _ (some _) _ => inferInstanceAs (Decidable (_ ∧ _))
  | .press _ _ none _ => isFalse id

end Views

/-! ## What happens on a screen -/

section Happenings

variable (s : Screen)

/-- Messages arrive. -/
def arrive (ps : List Place) : Screen := { s with given := ps ++ s.given }

/-- The messages that have arrived are an album. -/
def gather (album : List Place) : Screen :=
  { s with albums := album :: s.albums, latest := some album }

/-- Buttons are put under a message. -/
def put (p : Place) (buttons : List Button) : Screen :=
  { s with
    buttons := Function.update s.buttons p buttons
    album := Function.update s.album p (s.goesWith p) }

/-- A message is deleted. -/
def remove (p : Place) : Screen := { s with deleted := p :: s.deleted }

/-- A dispatch begins. -/
def turn : Screen := { s with latest := none }

/-- A call goes astray if the message that it is to change is not there. -/
def heed (c : Chat.Call) : Screen :=
  { s with strays := s.strays ++ if ∃ p ∈ c.target?, ¬ s.Live p then [c] else [] }

/-- What comes of a call that is replied to. -/
def effect : (c : Chat.Call) → c.Reply → Screen
  | .sendText chat _ none, .ok message => (s.arrive [⟨chat, message⟩]).gather []
  | .sendText chat text (some keyboard), .ok message =>
    (s.arrive [⟨chat, message⟩]).put ⟨chat, message⟩
      (Chat.Call.sendText chat text (some keyboard)).buttons
  | .sendAlbum chat _, .ok ids => (s.arrive (places chat ids)).gather (places chat ids)
  | .editButtons chat message rows, .ok () => s.put ⟨chat, message⟩ rows.flatten
  | .delete chat message, .ok () => s.remove ⟨chat, message⟩
  | _, _ => s

/-- The messages that a reply tells of are new. -/
def Fresh : (c : Chat.Call) → c.Reply → Prop
  | .sendText chat _ _, .ok message => ⟨chat, message⟩ ∉ s.given
  | .sendAlbum chat _, .ok ids => ids.Nodup ∧ ∀ p ∈ places chat ids, p ∉ s.given
  | _, _ => True

end Happenings

instance (s : Screen) : (c : Chat.Call) → (r : c.Reply) → Decidable (s.Fresh c r)
  | .sendText _ _ _, .ok _ => inferInstanceAs (Decidable (_ ∉ _))
  | .sendAlbum _ _, .ok _ => inferInstanceAs (Decidable (_ ∧ _))
  | .sendText _ _ _, .error _ => isTrue trivial
  | .sendAlbum _ _, .error _ => isTrue trivial
  | .editPhoto _ _ _, _ => isTrue trivial
  | .editButtons _ _ _, _ => isTrue trivial
  | .delete _ _, _ => isTrue trivial

/-- Watches the chat, which does as it is told and gives new messages new ids. -/
def watcher : Onlooker Desk.Call Desk.Call.Reply Screen where
  note s
    | .chat c, r => (s.heed c).effect c r
    | _, _ => s
  Expects s
    | .chat c, r => c.Usual r ∧ s.Fresh c r
    | _, _ => True

instance (s : Screen) : (c : Desk.Call) → (r : c.Reply) → Decidable (watcher.Expects s c r)
  | .chat _, _ => inferInstanceAs (Decidable (_ ∧ _))
  | .store _, _ => isTrue trivial
  | .rate, _ => isTrue trivial
  | .shelf, _ => isTrue trivial
  | .newId, _ => isTrue trivial
  | .now, _ => isTrue trivial

/-! ## Sound screens -/

/-- The ids are those of the messages that are left of an album; they fit a button. -/
structure Stands (s : Screen) (chat : Int64) (ids : List Int32) (album : List Place) : Prop where
  left : places chat ids = s.left album
  length : ids.length ≤ Desk.maxAlbumImages
  range : ∀ id ∈ ids, 1 ≤ id ∧ id ≤ 99999999

/-- No call has gone astray, and the buttons under every message tell what is left of the album that
goes with them, which they share with no others; but nothing is said of the buttons at `hold`. -/
structure Sound (hold : Option Place) (s : Screen) : Prop where
  strays : s.strays = []
  deleted : ∀ p ∈ s.deleted, p ∈ s.given
  shown : ∀ p, p ∉ s.given → s.buttons p = [] ∧ s.album p = []
  albums : ∀ album ∈ s.albums, album.Nodup ∧ ∀ p ∈ album, p ∈ s.given ∧ s.buttons p = []
  latest : ∀ album ∈ s.latest, album ∈ s.albums
  album : ∀ p, s.album p = [] ∨ s.album p ∈ s.albums
  carried : ∀ p ids, hold ≠ some p → s.Carries p ids → s.Stands p.chat ids (s.album p)
  apart : ∀ p q ids ids', hold ≠ some p → hold ≠ some q → p ≠ q → s.Carries p ids →
    s.Carries q ids' → (s.left (s.album p)).Disjoint (s.left (s.album q))

/-- The ids are what is left of an album of which no message has any, but for the one at `hold`. -/
structure Spare (hold : Option Place) (s : Screen) (chat : Int64) (ids : List Int32)
    (album : List Place) : Prop where
  known : album = [] ∨ album ∈ s.albums
  stands : s.Stands chat ids album
  apart : ∀ q ids, hold ≠ some q → s.Carries q ids → (s.left album).Disjoint (s.left (s.album q))

variable {s : Screen} {hold : Option Place} {p q : Place} {ps album : List Place} {chat : Int64}
  {ids : List Int32} {bs : List Button}

/-- It does not matter what else a screen shows. -/
theorem Stands.congr {s' : Screen} (h : s.Stands chat ids album)
    (hleft : s'.left album = s.left album) : s'.Stands chat ids album :=
  ⟨h.left.trans hleft.symm, h.length, h.range⟩

theorem sound_blank : Sound none blank where
  strays := rfl
  deleted := by simp [blank]
  shown := by simp [blank]
  albums := by simp [blank]
  latest := by simp [blank]
  album p := .inl rfl
  carried p ids _ h := by simp [Carries, Live, blank] at h
  apart p q ids ids' _ _ _ h := by simp [Carries, Live, blank] at h

theorem Sound.mono (h : Sound none s) (hold : Option Place) : Sound hold s :=
  { h with
    carried := fun p ids _ => h.carried p ids nofun
    apart := fun p q ids ids' _ _ => h.apart p q ids ids' nofun nofun }

theorem Spare.mono (h : Spare none s chat ids album) (hold : Option Place) :
    Spare hold s chat ids album :=
  { h with apart := fun q ids _ => h.apart q ids nofun }

theorem Sound.turn (h : Sound none s) : Sound none s.turn :=
  ⟨h.strays, h.deleted, h.shown, h.albums, nofun, h.album,
    fun p ids hp hcarries => (h.carried p ids hp hcarries).congr rfl, h.apart⟩

/-- An album that is empty or was sent has its messages, each once, and none of them has buttons. -/
theorem Sound.known (h : Sound hold s) (hknown : album = [] ∨ album ∈ s.albums) :
    album.Nodup ∧ ∀ p ∈ album, p ∈ s.given ∧ s.buttons p = [] := by
  rcases hknown with rfl | hmem
  · exact ⟨List.nodup_nil, List.forall_mem_nil _⟩
  · exact h.albums album hmem

theorem Sound.goesWith (h : Sound hold s) (p : Place) :
    s.goesWith p = [] ∨ s.goesWith p ∈ s.albums := by
  unfold Screen.goesWith
  cases hlatest : s.latest with
  | none => exact h.album p
  | some album => exact .inr (h.latest album (by rw [hlatest]; rfl))

/-- A message with buttons is in no album. -/
theorem Sound.not_mem_album (h : Sound hold s) (hp : s.buttons p ≠ []) :
    ∀ album ∈ s.albums, p ∉ album := fun album halbum hmem =>
  hp ((h.albums album halbum).2 p hmem).2

/-- A message with buttons was sent. -/
theorem Sound.given (h : Sound hold s) (hp : s.buttons p ≠ []) : p ∈ s.given := by
  by_contra hnot
  exact hp (h.shown p hnot).1

/-! ## Messages arrive -/

/-- New messages carry nothing. -/
theorem carries_arrive (h : Sound hold s) : (s.arrive ps).Carries p ids ↔ s.Carries p ids := by
  constructor
  · rintro ⟨⟨-, hlive⟩, b, hb, hids⟩
    have hgiven : p ∈ s.given := h.given (List.ne_nil_of_mem hb)
    exact ⟨⟨hgiven, hlive⟩, b, hb, hids⟩
  · rintro ⟨⟨hgiven, hlive⟩, hb⟩
    exact ⟨⟨List.mem_append_right ps hgiven, hlive⟩, hb⟩

theorem Sound.arrive (h : Sound hold s) : Sound hold (s.arrive ps) where
  strays := h.strays
  deleted p hp := List.mem_append_right ps (h.deleted p hp)
  shown p hp := h.shown p fun hgiven => hp (List.mem_append_right ps hgiven)
  albums album halbum := ⟨(h.albums album halbum).1, fun p hp =>
    ⟨List.mem_append_right ps ((h.albums album halbum).2 p hp).1,
      ((h.albums album halbum).2 p hp).2⟩⟩
  latest := h.latest
  album := h.album
  carried p ids hp hcarries := (h.carried p ids hp ((carries_arrive h).1 hcarries)).congr rfl
  apart p q ids ids' hp hq hne hcp hcq :=
    h.apart p q ids ids' hp hq hne ((carries_arrive h).1 hcp) ((carries_arrive h).1 hcq)

theorem Spare.arrive (h : Spare hold s chat ids album) (hs : Sound hold s) :
    Spare hold (s.arrive ps) chat ids album where
  known := h.known
  stands := h.stands.congr rfl
  apart q ids hq hcarries := h.apart q ids hq ((carries_arrive hs).1 hcarries)

/-- Messages without buttons become an album. -/
theorem Sound.gather (h : Sound hold s) (hnodup : album.Nodup)
    (halbum : ∀ p ∈ album, p ∈ s.given ∧ s.buttons p = []) : Sound hold (s.gather album) where
  strays := h.strays
  deleted := h.deleted
  shown := h.shown
  albums := List.forall_mem_cons.2 ⟨⟨hnodup, halbum⟩, h.albums⟩
  latest := by rintro _ ⟨⟩; exact List.mem_cons_self
  album p := (h.album p).imp_right (List.mem_cons_of_mem album)
  carried p ids hp hcarries := (h.carried p ids hp hcarries).congr rfl
  apart := h.apart

theorem places_nodup (chat : Int64) (h : ids.Nodup) : (places chat ids).Nodup :=
  h.map fun _ _ heq => (Place.mk.inj heq).2

/-- An album of new messages is nobody's. -/
theorem Sound.sendAlbum (h : Sound none s) (hnodup : ids.Nodup)
    (hnew : ∀ p ∈ places chat ids, p ∉ s.given) (hlength : ids.length ≤ Desk.maxAlbumImages)
    (hrange : ∀ id ∈ ids, 1 ≤ id ∧ id ≤ 99999999) :
    Sound none ((s.arrive (places chat ids)).gather (places chat ids)) ∧
      Spare none ((s.arrive (places chat ids)).gather (places chat ids)) chat ids
        (places chat ids) := by
  have harrived : Sound none (s.arrive (places chat ids)) := h.arrive
  refine ⟨harrived.gather (places_nodup chat hnodup) fun p hp =>
    ⟨List.mem_append_left _ hp, (h.shown p (hnew p hp)).1⟩, .inr List.mem_cons_self,
    ⟨?_, hlength, hrange⟩, fun q ids' _ _ p hp hq => ?_⟩
  · refine (List.filter_eq_self.2 fun p hp => ?_).symm
    exact decide_eq_true fun hdeleted => hnew p hp (h.deleted p hdeleted)
  · have hmem : p ∈ s.album q := (List.mem_filter.1 hq).1
    exact hnew p (List.mem_filter.1 hp).1 ((h.known (h.album q)).2 p hmem).1

/-! ## Buttons are put under a message -/

/-- Buttons may be put under a message if the ids that they carry are spare. -/
theorem Sound.put (h : Sound (some p) s) (hgiven : p ∈ s.given)
    (hnone : ∀ album ∈ s.albums, p ∉ album)
    (hbs : ∀ b ∈ bs, ∀ ids, b.ids? = some ids → Spare (some p) s p.chat ids (s.goesWith p)) :
    Sound none (s.put p bs) := by
  have hother : ∀ {q ids}, q ≠ p → (s.put p bs).Carries q ids → s.Carries q ids := by
    rintro q ids hne ⟨hlive, b, hb, hids⟩
    have hsame : (s.put p bs).buttons q = s.buttons q := Function.update_of_ne hne _ _
    exact ⟨hlive, b, hsame ▸ hb, hids⟩
  have hself : ∀ {ids}, (s.put p bs).Carries p ids →
      Spare (some p) s p.chat ids (s.goesWith p) := by
    rintro ids ⟨-, b, hb, hids⟩
    have hsame : (s.put p bs).buttons p = bs := Function.update_self _ _ _
    exact hbs b (hsame ▸ hb) ids hids
  have hheld : ∀ {q}, q ≠ p → some p ≠ some q := fun hne heq => hne (Option.some.inj heq).symm
  have halbum : (s.put p bs).album p = s.goesWith p := Function.update_self _ _ _
  have halbums : ∀ {q}, q ≠ p → (s.put p bs).album q = s.album q := fun hne =>
    Function.update_of_ne hne _ _
  refine ⟨h.strays, h.deleted, fun q hq => ?_, fun album hmem => ⟨(h.albums album hmem).1,
    fun q hq => ⟨((h.albums album hmem).2 q hq).1, ?_⟩⟩, h.latest, fun q => ?_,
    fun q ids _ hcarries => ?_, fun q r ids ids' _ _ hne hq hr => ?_⟩
  · have hne : q ≠ p := fun heq => hq (heq ▸ hgiven)
    rw [halbums hne]
    exact ⟨(Function.update_of_ne hne _ _).trans (h.shown q hq).1, (h.shown q hq).2⟩
  · have hne : q ≠ p := fun heq => hnone album hmem (heq ▸ hq)
    exact (Function.update_of_ne hne _ _).trans ((h.albums album hmem).2 q hq).2
  · by_cases hqp : q = p
    · subst hqp
      rw [halbum]
      exact h.goesWith q
    · rw [halbums hqp]
      exact h.album q
  · by_cases hqp : q = p
    · subst hqp
      rw [halbum]
      exact (hself hcarries).stands.congr rfl
    · rw [halbums hqp]
      exact (h.carried q ids (hheld hqp) (hother hqp hcarries)).congr rfl
  · by_cases hqp : q = p
    · subst hqp
      rw [halbum, halbums hne.symm]
      exact (hself hq).apart r ids' (hheld hne.symm) (hother hne.symm hr)
    · by_cases hrp : r = p
      · subst hrp
        rw [halbum, halbums hqp]
        exact List.disjoint_symm ((hself hr).apart q ids (hheld hqp) (hother hqp hq))
      · rw [halbums hqp, halbums hrp]
        exact h.apart q r ids ids' (hheld hqp) (hheld hrp) hne (hother hqp hq) (hother hrp hr)

/-! ## A message is deleted -/

theorem carries_remove (h : (s.remove q).Carries p ids) : p ≠ q ∧ s.Carries p ids := by
  obtain ⟨⟨hgiven, hlive⟩, hb⟩ := h
  exact ⟨fun heq => hlive (heq ▸ List.mem_cons_self),
    ⟨hgiven, fun hdeleted => hlive (List.mem_cons_of_mem q hdeleted)⟩, hb⟩

/-- What is left of an album without a message. -/
theorem left_remove (s : Screen) (q : Place) (album : List Place) :
    (s.remove q).left album = (s.left album).filter (· ≠ q) := by
  unfold left
  rw [List.filter_filter]
  refine List.filter_congr fun p _ => ?_
  simp [remove]

theorem left_remove_of_not_mem (h : q ∉ s.left album) :
    (s.remove q).left album = s.left album := by
  rw [left_remove]
  refine List.filter_eq_self.2 fun p hp => ?_
  simpa using fun heq : p = q => h (heq ▸ hp)

theorem disjoint_remove {album' : List Place}
    (h : (s.left album).Disjoint (s.left album')) (q : Place) :
    ((s.remove q).left album).Disjoint ((s.remove q).left album') := by
  rw [left_remove, left_remove]
  exact fun p hp hp' => h (List.mem_filter.1 hp).1 (List.mem_filter.1 hp').1

/-- A message may be deleted if it is in no album that goes with buttons, but for those at `hold`. -/
theorem Sound.remove (h : Sound hold s) (hgiven : q ∈ s.given)
    (hq : ∀ p ids, hold ≠ some p → s.Carries p ids → q ∉ s.left (s.album p)) :
    Sound hold (s.remove q) where
  strays := h.strays
  deleted := List.forall_mem_cons.2 ⟨hgiven, h.deleted⟩
  shown := h.shown
  albums := h.albums
  latest := h.latest
  album := h.album
  carried p ids hp hcarries := by
    have hbefore := (carries_remove hcarries).2
    exact (h.carried p ids hp hbefore).congr (left_remove_of_not_mem (hq p ids hp hbefore))
  apart p r ids ids' hp hr hne hcp hcr := disjoint_remove
    (h.apart p r ids ids' hp hr hne (carries_remove hcp).2 (carries_remove hcr).2) q

/-- One of the ids is taken out, and its message is deleted. -/
theorem Spare.remove {front : List Int32} {id : Int32} (hs : Sound hold s)
    (h : Spare hold s chat (front ++ id :: ids) album) :
    Spare hold (s.remove ⟨chat, id⟩) chat (front ++ ids) album where
  known := h.known
  stands := by
    have hnodup : (places chat (front ++ id :: ids)).Nodup := by
      rw [h.stands.left]
      exact (hs.known h.known).1.filter _
    refine ⟨?_, ?_, fun i hi => h.stands.range i ?_⟩
    · rw [left_remove, ← h.stands.left]
      simp only [places, List.map_append, List.map_cons] at hnodup ⊢
      obtain ⟨hnew, -⟩ := List.nodup_cons.1 (List.nodup_middle.1 hnodup)
      rw [List.filter_append, List.filter_cons_of_neg (by simp), ← List.filter_append]
      refine (List.filter_eq_self.2 fun x hx => ?_).symm
      simpa using fun heq : x = ⟨chat, id⟩ => hnew (heq ▸ hx)
    · refine Nat.le_trans ?_ h.stands.length
      simp
    · rcases List.mem_append.1 hi with hi | hi
      · exact List.mem_append_left _ hi
      · exact List.mem_append_right _ (List.mem_cons_of_mem id hi)
  apart q ids' hq hcarries :=
    disjoint_remove (h.apart q ids' hq (carries_remove hcarries).2) ⟨chat, id⟩

/-- The ids that some buttons carry are spare if those are that they are to carry. -/
theorem Spare.of_carry (h : Spare hold s chat ids album) (hbs : Chat.Carry ids bs) :
    ∀ b ∈ bs, ∀ ids', b.ids? = some ids' → Spare hold s chat ids' album := by
  intro b hb ids' hids'
  rcases hbs b hb with hnone | hsome
  · rw [hnone] at hids'
    cases hids'
  · obtain rfl : ids = ids' := Option.some.inj (hsome.symm.trans hids')
    exact h

/-! ## Calls that are heeded -/

/-- A call that changes no message does not go astray. -/
theorem heed_of_none {c : Chat.Call} (h : c.target? = none) : s.heed c = s := by
  have hnone : ¬ ∃ p ∈ c.target?, ¬ s.Live p := by simp [h]
  rw [heed, if_neg hnone, List.append_nil]

/-- Nor does a call for a message that is there. -/
theorem heed_of_live {c : Chat.Call} (h : c.target? = some p) (hlive : s.Live p) :
    s.heed c = s := by
  have hnone : ¬ ∃ p ∈ c.target?, ¬ s.Live p := by simpa [h] using hlive
  rw [heed, if_neg hnone, List.append_nil]

/-- No ids are spare in the place of an album without messages. -/
theorem spare_nil : Spare hold s chat [] [] where
  known := .inl rfl
  stands := ⟨rfl, Nat.zero_le _, List.forall_mem_nil _⟩
  apart _ _ _ _ := List.disjoint_nil_left _

/-- A text arrives. -/
theorem Sound.sendText {text : String} {keyboard : Option Chat.Keyboard} {message : Int32}
    (h : Sound none s) (hnew : ⟨chat, message⟩ ∉ s.given)
    (hbs : ∀ b ∈ (Chat.Call.sendText chat text keyboard).buttons, ∀ ids, b.ids? = some ids →
      Spare none s chat ids (s.latest.getD [])) :
    Sound none (s.effect (.sendText chat text keyboard) (.ok message)) := by
  cases keyboard with
  | none => exact h.arrive.gather List.nodup_nil (List.forall_mem_nil _)
  | some keyboard =>
    have hgoes : (s.arrive [⟨chat, message⟩]).goesWith ⟨chat, message⟩ = s.latest.getD [] :=
      congrArg s.latest.getD (h.shown _ hnew).2
    refine (h.mono (some ⟨chat, message⟩)).arrive.put List.mem_cons_self
      (fun album halbum hmem => hnew ((h.albums album halbum).2 _ hmem).1) fun b hb ids hids => ?_
    rw [hgoes]
    exact ((hbs b hb ids hids).mono _).arrive (h.mono _)

/-! ## A message whose buttons were pressed -/

/-- The message has buttons. -/
structure Displays (s : Screen) (p : Place) : Prop where
  buttons : s.buttons p ≠ []
  live : p ∉ s.deleted

theorem Displays.isLive (h : s.Displays p) (hs : Sound hold s) : s.Live p :=
  ⟨hs.given h.buttons, h.live⟩

/-- It is deleted. -/
theorem Sound.clear (h : Sound none s) (hp : s.Displays p) : Sound none (s.remove p) := by
  refine h.remove (h.given hp.buttons) fun q ids _ _ hmem => ?_
  have halbum : p ∈ s.album q := (List.mem_filter.1 hmem).1
  exact hp.buttons ((h.known (h.album q)).2 p halbum).2

/-- The ids that its buttons carry are spare for its next buttons. -/
theorem Sound.spare (h : Sound none s) (hcarries : s.Carries p ids) :
    Spare (some p) s p.chat ids (s.album p) where
  known := h.album p
  stands := h.carried p ids nofun hcarries
  apart q ids' hq hcarries' := by
    have hne : p ≠ q := fun heq => hq (congrArg some heq)
    exact h.apart p q ids ids' nofun nofun hne hcarries hcarries'

/-- The messages of the ids are there. -/
theorem Spare.isLive {id : Int32} (h : Spare hold s chat ids album) (hs : Sound hold s)
    (hid : id ∈ ids) : s.Live ⟨chat, id⟩ := by
  have hmem : ⟨chat, id⟩ ∈ s.left album := h.stands.left ▸ List.mem_map_of_mem hid
  obtain ⟨halbum, hlive⟩ := List.mem_filter.1 hmem
  exact ⟨((hs.known h.known).2 _ halbum).1, by simpa using hlive⟩

/-- None of them has buttons. -/
theorem Spare.ne {id : Int32} (h : Spare hold s chat ids album) (hs : Sound hold s)
    (hid : id ∈ ids) (hp : s.Displays p) : p ≠ ⟨chat, id⟩ := by
  have hmem : ⟨chat, id⟩ ∈ s.left album := h.stands.left ▸ List.mem_map_of_mem hid
  rintro rfl
  exact hp.buttons ((hs.known h.known).2 _ (List.mem_filter.1 hmem).1).2

/-- No other buttons tell of them. -/
theorem Spare.not_mem {id : Int32} (h : Spare hold s chat ids album) (hid : id ∈ ids) {q : Place}
    {ids' : List Int32} (hq : hold ≠ some q) (hcarries : s.Carries q ids') :
    ⟨chat, id⟩ ∉ s.left (s.album q) := by
  have hmem : ⟨chat, id⟩ ∈ s.left album := h.stands.left ▸ List.mem_map_of_mem hid
  exact fun hother => h.apart q ids' hq hcarries hmem hother

/-- A message with buttons waits for others, for which these ids are spare. -/
structure Awaits (p : Place) (chat : Int64) (ids : List Int32) (s : Screen) : Prop where
  sound : Sound (some p) s
  displays : s.Displays p
  spare : Spare (some p) s chat ids (s.goesWith p)

theorem Awaits.isLive {front : List Int32} {id : Int32} (h : s.Awaits p chat (front ++ id :: ids)) :
    s.Live ⟨chat, id⟩ := h.spare.isLive h.sound (by simp)

/-- One of the ids is taken out, and its message is deleted. -/
theorem Awaits.remove {front : List Int32} {id : Int32} (h : s.Awaits p chat (front ++ id :: ids)) :
    (s.remove ⟨chat, id⟩).Awaits p chat (front ++ ids) := by
  have hmem : id ∈ front ++ id :: ids := by simp
  have hne : p ≠ ⟨chat, id⟩ := h.spare.ne h.sound hmem h.displays
  have hsound : Sound (some p) (s.remove ⟨chat, id⟩) :=
    h.sound.remove h.isLive.1 fun q ids' hq hcarries => h.spare.not_mem hmem hq hcarries
  have hlive : p ∉ (s.remove ⟨chat, id⟩).deleted :=
    List.not_mem_cons_of_ne_of_not_mem hne h.displays.live
  exact ⟨hsound, ⟨h.displays.buttons, hlive⟩, h.spare.remove h.sound⟩

/-- An album was sent, or a text in its place, and its ids are spare. -/
structure Sent (s : Screen) (chat : Int64) (ids : List Int32) (s' : Screen) : Prop where
  sound : Sound none s'
  spare : ∃ album, s'.latest = some album ∧ Spare none s' chat ids album
  displays : ∀ p, s.Displays p → s'.Displays p

/-- A message whose buttons were pressed may get others that carry what was sent. -/
theorem Sent.awaits {s' : Screen} (h : s.Sent chat ids s') (hp : s.Displays p) :
    s'.Awaits p chat ids := by
  obtain ⟨album, hlatest, hids⟩ := h.spare
  have hgoes : s'.goesWith p = album := by
    rw [Screen.goesWith, hlatest]
    rfl
  exact ⟨h.sound.mono _, h.displays p hp, hgoes ▸ hids.mono _⟩

end Screen
end OrderDesk
