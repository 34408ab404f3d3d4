import OrderDesk.Callback.Action
import OrderDesk.Pattern.Reader

/-!
# Settings of the operator

What the operator can change without touching the program: pictures of the guide, frequent
questions, payment details and the form of shop links.
-/

namespace OrderDesk

/-- A frequent question with its answer. -/
structure FaqEntry where
  question : String
  answer : String
  deriving DecidableEq, Repr

/-- The settings. -/
structure Settings where
  /-- Addresses of the pictures of each guide step. -/
  guideImages : List (List String)
  faq : List FaqEntry
  /-- Payment details. -/
  requisites : String
  /-- Pattern of the links that are accepted. -/
  shopLinkPattern : String
  deriving DecidableEq, Repr

/-- Why settings cannot be used. -/
inductive SettingsError where
  /-- The file cannot be read. -/
  | unreadable
  /-- The file does not hold settings. -/
  | malformed
  /-- The pattern of links is none. -/
  | badPattern
  /-- There are more frequent questions than buttons. -/
  | tooManyQuestions (count : Nat)
  deriving DecidableEq, Repr

/-- The wording of what makes settings unusable. -/
def SettingsError.message : SettingsError → String
  | unreadable => "Failed to read bot settings"
  | malformed => "Failed to parse bot settings"
  | badPattern => "shop_link_pattern is not a valid regex"
  | tooManyQuestions count =>
    "faq has " ++ Decimal.ofNat count ++ " entries, at most " ++ Decimal.ofNat maxFaqEntries ++
      " are supported"

namespace Settings

/-- The settings of an operator who changes nothing. -/
def standard : Settings :=
  { guideImages := [[], [], [], []]
    faq :=
      [⟨"Сколько идёт доставка?", "Обычная доставка занимает 3-4 недели, экспресс около 10 дней"⟩,
       ⟨"Как рассчитывается цена?",
        "Цена в юанях переводится по текущему курсу, к ней добавляются комиссия сервиса и стоимость доставки"⟩,
       ⟨"Можно ли вернуть товар?",
        "Товары с Poizon возврату не подлежат, проверяйте размер перед заказом"⟩]
    requisites := "Реквизиты уточните у менеджера"
    shopLinkPattern := "^https://dw4\\.co/.*" }

instance : Inhabited Settings := ⟨standard⟩

/-- The pattern of links. -/
def pattern? (s : Settings) : Option Pattern := Pattern.ofText? s.shopLinkPattern

/-- Checks that the settings can be used. -/
def validate (s : Settings) : Except SettingsError Unit :=
  if s.pattern?.isNone then .error .badPattern
  else if maxFaqEntries < s.faq.length then .error (.tooManyQuestions s.faq.length)
  else .ok ()

/-- The pictures of a guide step, counted from 1; none where there are none. -/
def guideStepImages (s : Settings) (n : UInt8) : List String :=
  if n = 0 then [] else s.guideImages.getD (n.toNat - 1) []

end Settings

end OrderDesk
