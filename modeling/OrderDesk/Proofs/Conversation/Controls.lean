import OrderDesk.Proofs.Conversation.Screen

/-!
# Controls tell the truth

The handlers are followed along their text, with the screen as the chat shows it after every call
(`Turn.Seen`).  Most of them only send texts whose buttons carry no message ids, so it is enough to
know what kinds of calls they make.  The catalogue, the guide and the cart under revision change
messages that were sent before, and those messages they know from the press alone.  What makes them
safe is that a press names the message it stands under and the ids that its buttons carry: while
pictures are put into the messages of an album one by one, the ids that were already dealt with and
those that are still to come are together what is left of it (`replaceAlbum_seen`).
-/

namespace OrderDesk

open Chat (Button Rows)
open Screen (Sound Spare)

namespace Turn

variable {α β : Type} {id : Int64} {s : Screen} {t : Turn α} {P : Screen → α → Prop}
  {Q : Screen → β → Prop}

/-- The chat does as it is told, and the record of the customer is kept.  If the turn ends with a
value, `P` holds of it and of the screen then; if it fails, the screen is sound. -/
def Seen (id : Int64) (t : Turn α) (P : Screen → α → Prop) (s : Screen) : Prop :=
  t.Watched (Screen.watcher.and (Desk.Granted id)) (fun _ => True) (Sound none) P s

theorem seen_pure {a : α} (h : P s a) : (pure a : Turn α).Seen id P s := watched_pure trivial h

theorem Seen.bind {f : α → Turn β} (h : t.Seen id P s)
    (hf : ∀ s a, P s a → (f a).Seen id Q s) : (t >>= f).Seen id Q s := Watched.bind h hf

/-- A computation that succeeds. -/
theorem seen_ofExcept_bind {ε : Type} {wrap : ε → Failure} {x : Except ε α} {a : α}
    {f : α → Turn β} (hx : x = .ok a) (h : (f a).Seen id Q s) :
    (ofExcept wrap x >>= f).Seen id Q s := by
  rw [hx]
  exact h

/-- A computation that may fail. -/
theorem seen_ofExcept {ε : Type} {wrap : ε → Failure} {x : Except ε α} (hs : Sound none s) :
    (ofExcept wrap x).Seen id (fun s' a => s = s' ∧ x = .ok a) s :=
  watched_ofExcept trivial (fun _ ha => ⟨rfl, ha⟩) fun _ _ => hs

/-- A look at the shelf. -/
theorem seen_shelf : Turn.shelf.Seen id (fun s' _ => s = s') s :=
  watched_ask trivial fun _ _ => ⟨trivial, rfl⟩

theorem seen_update {c : Customer} {u : Customer.Update} :
    (Turn.update c u).Seen c.id (fun s' _ => s = s') s := by
  refine watched_store trivial fun r hr => ⟨trivial, fun _ _ => rfl, fun e he => ?_⟩
  have hok : r = .ok () := hr.2 rfl
  rw [hok] at he
  cases he

/-- A call to the chat, which does as it is told. -/
theorem seen_chat {c : Chat.Call} {P : Screen → c.Value → Prop}
    (h : ∀ v, c.Usual (.ok v) → s.Fresh c (.ok v) → P ((s.heed c).effect c (.ok v)) v) :
    (Turn.chat c).Seen id P s := by
  refine watched_chat trivial fun r hr => ?_
  obtain ⟨⟨husual, hfresh⟩, -⟩ := hr
  obtain ⟨v, rfl⟩ := husual.ok
  refine ⟨trivial, fun v' hv => ?_, nofun⟩
  obtain rfl : v = v' := Except.ok.inj hv
  exact h v husual hfresh

end Turn

namespace Desk

open Turn (seen_chat seen_ofExcept seen_ofExcept_bind seen_pure seen_shelf seen_update)

variable {desk : Desk} {chat : Int64} {c : Customer} {id : Int64} {s : Screen} {p : Place}
  {ids : List Int32}

/-! ## Parts of handlers -/

theorem sendText_seen {text : String} {keyboard : Option Chat.Keyboard} (hs : Sound none s)
    (hbs : ∀ b ∈ (Chat.Call.sendText chat text keyboard).buttons, ∀ ids, b.ids? = some ids →
      Spare none s chat ids (s.latest.getD [])) :
    (sendText chat text keyboard).Seen id (fun s' _ => Sound none s') s := by
  have hsend : (Turn.chat (.sendText chat text keyboard)).Seen id (fun s' _ => Sound none s') s := by
    refine seen_chat fun message _ hnew => ?_
    rw [Screen.heed_of_none rfl]
    exact hs.sendText hnew hbs
  exact hsend.bind fun _ _ hs' => seen_pure hs'

theorem sendRows_seen {key : String} {rows : Rows} (hs : Sound none s)
    (hbs : ∀ b ∈ rows.flatten, ∀ ids, b.ids? = some ids →
      Spare none s chat ids (s.latest.getD [])) :
    (desk.sendRows chat key rows).Seen id (fun s' _ => Sound none s') s := sendText_seen hs hbs

theorem send_seen {key : String} (hs : Sound none s) :
    (desk.send chat key).Seen id (fun s' _ => Sound none s') s :=
  sendText_seen hs (List.forall_mem_nil _)

/-- Buttons that carry spare ids are put under the message that was pressed. -/
theorem editButtons_seen {rows : Rows} (hs : Sound (some p) s) (hp : s.Displays p)
    (hbs : ∀ b ∈ rows.flatten, ∀ ids, b.ids? = some ids →
      Spare (some p) s p.chat ids (s.goesWith p)) :
    (Turn.chat (.editButtons p.chat p.message rows)).Seen id (fun s' _ => Sound none s') s := by
  refine seen_chat fun _ _ _ => ?_
  rw [Screen.heed_of_live rfl (hp.isLive hs)]
  exact hs.put (hs.given hp.buttons) (hs.not_mem_album hp.buttons) hbs

/-- An album is sent, and its ids are spare. -/
theorem sendAlbum_seen {photos : List Chat.Photo} (hs : Sound none s)
    (hlength : photos.length ≤ maxAlbumImages) :
    (Turn.chat (.sendAlbum chat photos)).Seen id (fun s' ids => s.Sent chat ids s') s := by
  refine seen_chat fun ids husual hfresh => ?_
  obtain ⟨ids', heq, hcount, hrange⟩ := husual
  obtain rfl : ids = ids' := Except.ok.inj heq
  rw [Screen.heed_of_none rfl]
  obtain ⟨hsound, hspare⟩ := hs.sendAlbum hfresh.1 hfresh.2 (hcount ▸ hlength) hrange
  exact ⟨hsound, ⟨_, rfl, hspare⟩, fun _ hp => ⟨hp.buttons, hp.live⟩⟩

/-- An item is sent, with pictures or without. -/
theorem sendItem_seen {item : Catalog.Item} (hs : Sound none s) :
    (sendItem chat item).Seen id (fun s' ids => s.Sent chat ids s') s := by
  have hlength : (itemAlbum item).length ≤ maxAlbumImages := by
    rw [itemAlbum, album_length]
    exact List.length_take_le _ _
  simp only [sendItem]
  split
  · have hcall : (Turn.chat (.sendText chat item.caption none)).Seen id
        (fun s' _ => s.Sent chat [] s') s := by
      refine seen_chat fun message _ hnew => ?_
      rw [Screen.heed_of_none rfl]
      exact ⟨hs.sendText hnew (List.forall_mem_nil _), ⟨[], rfl, Screen.spare_nil⟩,
        fun _ hp => ⟨hp.buttons, hp.live⟩⟩
    have hsend : (sendText chat item.caption none).Seen id (fun s' _ => s.Sent chat [] s') s :=
      hcall.bind fun _ _ hsent => seen_pure hsent
    exact hsend.bind fun _ _ hsent => seen_pure hsent
  · exact sendAlbum_seen hs hlength

/-- Pictures are put into the messages of an album, and those left over are deleted: the ids before
and those that stay are what is left of it. -/
theorem replaceAlbum_seen {front ids : List Int32} {photos : List Chat.Photo}
    (h : s.Awaits p chat (front ++ ids)) :
    (replaceAlbum chat ids photos).Seen id (fun s' kept => s'.Awaits p chat (front ++ kept)) s := by
  induction ids generalizing front photos s with
  | nil => exact seen_pure h
  | cons message ids ih =>
    cases photos with
    | nil =>
      have hdelete : (Turn.chat (.delete chat message)).Seen id
          (fun s' _ => s'.Awaits p chat (front ++ ids)) s := by
        refine seen_chat fun _ _ _ => ?_
        rw [Screen.heed_of_live rfl h.isLive]
        exact h.remove
      exact hdelete.bind fun s' _ hs' => ih hs'
    | cons photo photos =>
      have hnext : s.Awaits p chat ((front ++ [message]) ++ ids) := by
        rwa [List.append_cons] at h
      have hedit : (Turn.chat (.editPhoto chat message photo)).Seen id
          (fun s' _ => s'.Awaits p chat ((front ++ [message]) ++ ids)) s := by
        refine seen_chat fun _ _ _ => ?_
        rw [Screen.heed_of_live rfl h.isLive]
        exact hnext
      refine hedit.bind fun s' _ hs' => (ih hs').bind fun s'' kept hs'' => seen_pure ?_
      rwa [List.append_assoc] at hs''

/-! ## Handlers that change what was sent before -/

section Handlers

variable {β : Type} {hold : Option Place} {album : List Place} {f : Rows → Turn β}
  {Q : Screen → β → Prop}

theorem itemRows_seen {shelf : Catalog.Shelf} {offset : UInt64}
    (hids : Spare hold s chat ids album)
    (hf : ∀ rows : Rows, Chat.Carry ids rows.flatten → (f rows).Seen id Q s) :
    (Turn.ofExcept .callback (desk.itemRows shelf offset ids) >>= f).Seen id Q s := by
  have hfits : ButtonData.Fits 4 ids :=
    ButtonData.fits_album hids.stands.length hids.stands.range
  obtain ⟨rows, hrows⟩ := gives_catalogRows.eq_ok hfits
  exact seen_ofExcept_bind hrows (hf rows (catalogRows_carry hrows))

theorem guideRows_seen {n : UInt8} (hfirst : 1 ≤ n) (hlast : n ≤ guideSteps)
    (hids : Spare hold s chat ids album)
    (hf : ∀ rows : Rows, Chat.Carry ids rows.flatten → (f rows).Seen id Q s) :
    (Turn.ofExcept .callback (guideRows desk.texts n ids) >>= f).Seen id Q s := by
  have hfits : ButtonData.Fits 4 ids :=
    ButtonData.fits_album hids.stands.length hids.stands.range
  obtain ⟨rows, hrows⟩ :=
    (@gives_guideRows desk.texts ids n hfirst hlast).eq_ok (hfits.mono (by decide))
  exact seen_ofExcept_bind hrows (hf rows (guideRows_carry hrows))

end Handlers

theorem catalog_seen (hs : Sound none s) :
    (desk.catalog chat c).Seen c.id (fun s' _ => Sound none s') s := by
  refine seen_shelf.bind ?_
  rintro _ shelf rfl
  dsimp only
  split
  · exact send_seen hs
  · refine (sendItem_seen hs).bind fun s' ids hsent => seen_shelf.bind ?_
    rintro _ shelf' rfl
    obtain ⟨album, hlatest, hids⟩ := hsent.spare
    refine itemRows_seen hids fun rows hrows => ?_
    have hshow : (desk.sendRows chat "catalog-controls" rows).Seen c.id
        (fun s' _ => Sound none s') s' := by
      refine sendRows_seen hsent.sound ?_
      rw [hlatest]
      exact hids.of_carry hrows
    refine hshow.bind fun s'' _ hs'' => ?_
    split
    · exact seen_update.mono fun _ _ heq => heq ▸ hs''
    · exact seen_pure hs''

/-- A press of an arrow: the ids that it carries are spare for the next buttons under its message. -/
theorem catalogStep_seen {direction : Direction} (hs : Sound none s) (hp : s.Displays p)
    (hids : ids ≠ [] → s.Awaits p p.chat ids) :
    (desk.catalogStep p.chat c direction ids (some p.message)).Seen c.id
      (fun s' _ => Sound none s') s := by
  refine seen_shelf.bind ?_
  rintro _ shelf rfl
  split
  · exact seen_pure hs
  · rename_i offset hoffset
    have rest : ∀ s kept, s.Awaits p p.chat kept → (do
        Turn.update c { Customer.Update.none with catalogOffset := some offset }
        let rows ← Turn.ofExcept .callback (desk.itemRows (← Turn.shelf) offset kept)
        desk.showRows p.chat (some p.message) "catalog-controls" rows).Seen c.id
          (fun s' _ => Sound none s') s := by
      intro s kept h
      refine seen_update.bind ?_
      rintro _ _ rfl
      refine seen_shelf.bind ?_
      rintro _ shelf' rfl
      exact itemRows_seen h.spare fun rows hrows =>
        editButtons_seen h.sound h.displays (h.spare.of_carry hrows)
    dsimp only
    split
    · exact (sendItem_seen hs).bind fun s' kept hsent => rest s' kept (hsent.awaits hp)
    · rename_i halbum
      have hbefore : s.Awaits p p.chat ([] ++ ids) := hids (by simpa using halbum)
      exact (replaceAlbum_seen hbefore).bind rest

section Guide

variable {n : UInt8}

theorem sendGuideStep_seen (hs : Sound none s) (hlatest : s.latest = none) (hfirst : 1 ≤ n)
    (hlast : n ≤ guideSteps) :
    (desk.sendGuideStep chat n).Seen id (fun s' _ => Sound none s') s := by
  have hlength : (desk.guideAlbum n).length ≤ maxAlbumImages := by
    rw [guideAlbum, album_length]
    exact List.length_take_le _ _
  have rest : ∀ s ids, Sound none s → Spare none s chat ids (s.latest.getD []) → (do
      let rows ← Turn.ofExcept .callback (guideRows desk.texts n ids)
      desk.sendRows chat (guideKey n) rows).Seen id (fun s' _ => Sound none s') s := by
    intro s ids hs hids
    exact guideRows_seen hfirst hlast hids fun rows hrows =>
      sendRows_seen hs (hids.of_carry hrows)
  simp only [sendGuideStep]
  split
  · refine Turn.Seen.bind (P := fun s' ids => s = s' ∧ ids = []) (seen_pure ⟨rfl, rfl⟩) ?_
    rintro _ _ ⟨rfl, rfl⟩
    refine rest s [] hs ?_
    rw [hlatest]
    exact Screen.spare_nil
  · refine (sendAlbum_seen hs hlength).bind fun s' ids hsent => ?_
    obtain ⟨album, hlatest', hids⟩ := hsent.spare
    refine rest s' ids hsent.sound ?_
    rwa [hlatest']

theorem guideStep_seen (hs : Sound none s) (hlatest : s.latest = none)
    (hids : ids ≠ [] → s.Awaits p p.chat ids) :
    (desk.guideStep p.chat n ids (some p.message)).Seen id (fun s' _ => Sound none s') s := by
  simp only [guideStep]
  split
  · exact Turn.watched_throw trivial hs
  · rename_i hn
    simp only [Bool.or_eq_true, decide_eq_true_eq, not_or, UInt8.not_lt] at hn
    obtain ⟨hfirst, hlast⟩ := hn
    split
    · exact sendGuideStep_seen hs hlatest hfirst hlast
    · rename_i halbum
      have hbefore : s.Awaits p p.chat ([] ++ ids) := hids (by simpa using halbum)
      refine (replaceAlbum_seen hbefore).bind fun s' kept h => ?_
      exact guideRows_seen hfirst hlast h.spare fun rows hrows =>
        editButtons_seen h.sound h.displays (h.spare.of_carry hrows)

end Guide

/-- A line is taken out of the cart: the message with the buttons for its lines is changed or
deleted. -/
theorem removePosition_seen {index : Nat} (hs : Sound none s) (hp : s.Displays p) :
    (desk.removePosition p.chat c index (some p.message)).Seen c.id
      (fun s' _ => Sound none s') s := by
  refine seen_update.bind ?_
  rintro _ _ rfl
  split
  · have hdelete : (Turn.chat (.delete p.chat p.message)).Seen c.id (fun s' _ => Sound none s') s := by
      refine seen_chat fun _ _ _ => ?_
      rw [Screen.heed_of_live rfl (hp.isLive hs)]
      exact hs.clear hp
    exact hdelete.bind fun s' _ hs' => send_seen hs'
  · refine (seen_ofExcept hs).bind ?_
    rintro _ rows ⟨rfl, hrows⟩
    have hplain : Chat.Plain rows.flatten := editCartRows_plain hrows
    refine editButtons_seen (hs.mono _) hp fun b hb ids hids => ?_
    rw [hplain b hb] at hids
    cases hids

/-! ## All requests -/

/-- A text without message ids keeps the screen sound. -/
theorem sound_of_plain {call : Chat.Call} {r : call.Reply} (hs : Sound none s)
    (hcall : call.IsPlain) (husual : call.Usual r) (hfresh : s.Fresh call r) :
    Sound none ((s.heed call).effect call r) := by
  cases call with
  | sendText chat text keyboard =>
    obtain ⟨message, rfl⟩ := husual
    rw [Screen.heed_of_none rfl]
    refine hs.sendText hfresh fun b hb ids hids => ?_
    rw [hcall b hb] at hids
    cases hids
  | _ => exact hcall.elim

/-- Most requests are answered with such texts. -/
theorem fulfil_seen {q : Request} (hd : desk.Plain) (hq : q.isPlain) (hs : Sound none s) :
    (desk.fulfil chat c q).Seen c.id (fun s' _ => Sound none s') s := by
  have hasks : (desk.fulfil chat c q).Asks (Call.Fulfils True c.id chat) :=
    fulfil_fulfils (fun _ => hd) fun _ => hq
  refine hasks.watched (fun _ _ => trivial) (fun _ hs => hs) (fun s call r hcall hs hr => ?_) hs
  cases call with
  | chat call =>
    have hplain : call.IsPlain := by
      rcases hcall with (⟨-, hplain⟩ | ⟨_, -, heq⟩) | heq | ⟨_, heq⟩
      · exact hplain trivial
      · cases heq
      · cases heq
      · cases heq
    exact sound_of_plain hs hplain hr.1.1 hr.1.2
  | _ => exact hs

/-- Whatever is done about the button that was pressed. -/
theorem act_seen {a : Action} {data : ButtonData} (hd : desk.Plain) (hs : Sound none s)
    (hlatest : s.latest = none) (hp : s.Displays p)
    (hids : data.messageIds ≠ [] → s.Awaits p p.chat data.messageIds) :
    (desk.act p.chat c data (some p.message) a).Seen c.id (fun s' _ => Sound none s') s := by
  by_cases ha : a.isPlain
  · exact fulfil_seen (q := .press a data (some p.message)) hd ha hs
  · cases a with
    | catalog => exact catalog_seen hs
    | catalogPrev => exact catalogStep_seen hs hp hids
    | catalogNext => exact catalogStep_seen hs hp hids
    | guideStep n => exact guideStep_seen hs hlatest hids
    | removePosition index => exact removePosition_seen hs hp
    | _ => exact absurd rfl ha

/-- The ids of a press are those that the button carries, or there are none. -/
theorem messageIds_cases {b : Button} {data : ButtonData}
    (h : ButtonData.decode b.data = .ok data) :
    data.messageIds = [] ∨ b.ids? = some data.messageIds := by
  obtain ⟨code, payload⟩ := data
  cases payload with
  | messageIds ids =>
    right
    rw [Button.ids?, h]
    rfl
  | _ => exact .inl rfl

/-- An event that the screen offers, a text or the press of a button that is displayed, keeps the
screen sound. -/
theorem respond_seen {event : Chat.Event} (hd : desk.Plain) (hs : Sound none s)
    (hlatest : s.latest = none) (hoffer : s.Offers event) (c : Customer) :
    (desk.respond c event).Seen c.id (fun s' _ => Sound none s') s := by
  refine (seen_ofExcept hs).bind ?_
  rintro _ q ⟨rfl, hq⟩
  by_cases hplain : q.isPlain
  · exact fulfil_seen hd hplain hs
  · cases q with
    | command k => exact absurd rfl hplain
    | answer i text => exact absurd rfl hplain
    | press a data message =>
      obtain ⟨raw, hevent, hdecode, -⟩ := desk.press_of_understand hq
      rw [hevent] at hoffer
      cases message with
      | none => exact hoffer.elim
      | some message =>
        obtain ⟨hlive, b, hb, rfl⟩ := hoffer
        have hp : s.Displays ⟨event.chat, message⟩ := ⟨List.ne_nil_of_mem hb, hlive.2⟩
        refine act_seen (p := ⟨event.chat, message⟩) hd hs hlatest hp fun hids => ?_
        have hcarries : s.Carries ⟨event.chat, message⟩ data.messageIds :=
          ⟨hlive, b, hb, (messageIds_cases hdecode).resolve_left hids⟩
        have hgoes : s.goesWith ⟨event.chat, message⟩ = s.album ⟨event.chat, message⟩ := by
          rw [Screen.goesWith, hlatest]
          rfl
        exact ⟨hs.mono _, hp, hgoes ▸ hs.spare hcarries⟩

end Desk
end OrderDesk
