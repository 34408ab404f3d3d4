import OrderDesk.Phrase.Book

/-!
# The Russian phrases

The phrases the desk speaks with unless a phrase file takes their place.
-/

namespace OrderDesk.Phrase

/-- The lines of the phrase file. -/
def russianLines : List String :=
  [
   "welcome = 👋 Добро пожаловать! Я помогу оформить заказ с Poizon: посчитаю цену, соберу корзину и передам заказ менеджеру.",
   "yuan-rate = 💴 Текущий курс юаня: \x7b $rate \x7d ₽",
   "menu-title = 📋 Главное меню",
   "menu-catalog = 🛍 Каталог",
   "menu-make-order = 📝 Оформить заказ",
   "menu-cart = 🛒 Корзина",
   "menu-my-orders = 📦 Мои заказы",
   "menu-calculator = 🧮 Калькулятор стоимости",
   "menu-faq = ❓ Частые вопросы",
   "menu-guide = 📖 Как оформить заказ",
   "button-menu = Меню",
   "button-cart = Корзина",
   "button-add-position = Добавить позицию",
   "back-to-menu = ⬅️ В меню",
   "choose-order-type = Выберите тип доставки",
   "order-type-express = 🚀 Экспресс",
   "order-type-normal = 🚚 Обычная",
   "choose-location = Из какого вы города?",
   "location-spb = Санкт-Петербург",
   "location-izhevsk = Ижевск",
   "location-other = Другой город",
   "choose-category = Выберите категорию товара",
   "category-light = 👟 Лёгкая (одежда, аксессуары)",
   "category-heavy = 📦 Тяжёлая (зимняя обувь, куртки)",
   "category-other = 👞 Обычная (кроссовки, сумки)",
   "enter-size = Введите размер. Если у товара нет размера, отправьте символ #",
   "choose-button = Какого цвета кнопка с ценой?",
   "button-turquoise = Бирюзовая",
   "button-grey = Серая",
   "button-used95 = 95% (б/у)",
   "enter-price = Введите цену в юанях (целое число)",
   "price-calculated = Стоимость позиции: \x7b $price_rub \x7d ₽. Теперь отправьте ссылку на товар",
   "position-added = ✅ Позиция добавлена в корзину",
   "cart-full = ⚠️ В корзине уже максимальное число позиций, оформите заказ или удалите лишние",
   "size-invalid = ⚠️ Некорректный размер, попробуйте ещё раз",
   "price-invalid = ⚠️ Цена должна быть целым положительным числом не больше 10000000",
   "link-invalid = ⚠️ Ссылка не похожа на ссылку Poizon, попробуйте ещё раз",
   "fullname-invalid = ⚠️ Введите ФИО полностью: фамилия, имя и отчество через пробел",
   "phone-invalid = ⚠️ Введите номер в формате 79999999999",
   "address-invalid = ⚠️ Введите адрес доставки",
   "cart-empty = 🛒 Корзина пуста",
   "cart-title = 🛒 Ваша корзина",
   "cart-position = \x7b $index \x7d. \x7b $link \x7d",
   "    Размер: \x7b $size \x7d",
   "    Кнопка: \x7b $button \x7d",
   "    Цена: \x7b $price_yuan \x7d ¥ / \x7b $price_rub \x7d ₽",
   "no-size = без размера",
   "cart-total = Итого: \x7b $total_rub \x7d ₽ (\x7b $total_yuan \x7d ¥)",
   "cart-edit = ✏️ Редактировать",
   "cart-add-position = ➕ Добавить позицию",
   "cart-checkout = ✅ Оформить заказ",
   "cart-choose-position = Нажмите на позицию, чтобы удалить её из корзины",
   "cart-remove-position = ❌ Позиция \x7b $index \x7d",
   "cart-now-empty = Корзина пуста, все позиции удалены",
   "enter-full-name = Введите ФИО получателя (фамилия, имя, отчество)",
   "express-single-position = ⚠️ Экспресс-доставка доступна только для заказа из одной позиции. Удалите лишние позиции из корзины",
   "enter-phone = Введите номер телефона получателя",
   "enter-address = Введите адрес доставки (пункт выдачи СДЭК)",
   "order-preview = 📦 Заказ \x7b $short_id \x7d",
   "    Тип доставки: \x7b $order_type \x7d",
   "    Получатель: \x7b $full_name \x7d",
   "    Телефон: \x7b $phone \x7d",
   "    Адрес: \x7b $address \x7d",
   "order-total = К оплате: \x7b $total_rub \x7d ₽",
   "requisites = 💳 Оплатите \x7b $total_rub \x7d ₽ по реквизитам:",
   "    \x7b $requisites \x7d",
   "    После оплаты нажмите кнопку ниже",
   "button-paid = ✅ Я оплатил",
   "payment-received = 🙏 Спасибо! Менеджер проверит оплату заказа \x7b $short_id \x7d и свяжется с вами",
   "order-not-found = Заказ не найден",
   "my-orders-empty = У вас пока нет заказов",
   "my-orders-title = 📦 Ваши заказы",
   "order-summary = Заказ \x7b $short_id \x7d от \x7b $date \x7d",
   "    Оплачен: \x7b $paid \x7d",
   "    Подтверждён: \x7b $approved \x7d",
   "    Статус: \x7b $status \x7d",
   "    Сумма: \x7b $total_rub \x7d ₽",
   "yes = да",
   "no = нет",
   "status-not_approved = ожидает подтверждения",
   "status-approved = подтверждён",
   "status-buyout = выкуплен",
   "status-transported = в пути",
   "status-delivered = доставлен",
   "catalog-empty = Каталог пока пуст",
   "catalog-controls = Листайте каталог кнопками ниже",
   "catalog-prev = ⬅️ \x7b $title \x7d",
   "catalog-next = \x7b $title \x7d ➡️",
   "calculator-enter-amount = Введите цену товара в юанях",
   "calculator-result = Стоимость товара с доставкой: \x7b $price_rub \x7d ₽",
   "calculate-more = 🔁 Посчитать ещё",
   "guide-step-1 = Шаг 1. Найдите товар в приложении Poizon и выберите размер",
   "guide-step-2 = Шаг 2. Посмотрите цвет кнопки с ценой и запомните цену в юанях",
   "guide-step-3 = Шаг 3. Нажмите «Поделиться» и скопируйте ссылку на товар",
   "guide-step-4 = Шаг 4. Добавьте позицию в корзину в боте и оформите заказ",
   "guide-prev = ⬅️ Назад",
   "guide-next = Далее ➡️",
   "guide-add-position = ➕ Добавить позицию",
   "faq-title = ❓ Частые вопросы",
   "error-generic = 😔 Что-то пошло не так. Попробуйте ещё раз или откройте /menu"]

/-- The text of the phrase file. -/
def russianSource : String := Text.joined "\n" russianLines ++ "\n"

/-- The book of the Russian phrases. -/
def Book.russian : Book := (Book.ofText russianSource).toOption.getD .empty

end OrderDesk.Phrase
