import BookStore.Catalog.BookCreation
import BookStore.Catalog.Listing
import BookStore.Pages

/-!
# The books of an author and of a publisher

`BookAuthorRepository` and `PublisherRepository` count and list books under a predicate of
their own: every variant has a price above 0.  The catalog list asks for some variant that is
active and has one.

`OneVisibilityRule` says that the predicates agree on what is counted and listed.  They do
where `PricesAgree` holds.  A NULL price is neither above 0 nor not: whether it passes inside
`every` is left to the engine.
-/

namespace BookStore

open BookCreation (BookAuthor Named)

/-- The catalog with the authors and the publishers of its books -/
structure ShelfDb extends CatalogDb where
  authors : List Named
  bookAuthors : List BookAuthor
  /-- `books.publisher_id`: a book and its publisher -/
  bookPublishers : List (Nat × Nat)
  deriving DecidableEq

/-- A row of `findBooksByPublisher` -/
structure PublisherBookRow where
  book : Book
  translations : List BookTranslation
  variants : List CatalogVariant
  deriving DecidableEq

/-- A row of `findBooksByAuthor` -/
structure AuthorBookRow extends PublisherBookRow where
  isPrimary : Bool
  deriving DecidableEq

/-- `price: { gt: 0 }` inside `every`, with what the engine makes of NULL -/
def passesEvery (null : Bool) (price : Option ℚ) : Bool :=
  match price with
  | none => null
  | some p => decide (0 < p)

namespace ShelfDb

variable (db : ShelfDb) (null : Bool)

def variantsOf (b : Book) : List CatalogVariant :=
  db.variants.filter fun v => decide (v.bookId = b.id)

/-- The predicate on books in the queries of both repositories -/
def ownBooksWhere (languageId : Nat) (b : Book) : Bool :=
  b.isActive && b.deletedAt.isNone && ((db.variantsOf b).all fun v => passesEvery null v.price) &&
    !(db.translationsOf b languageId).isEmpty

/-- The links of an author, each with its book -/
def linksOfAuthor (authorId : Nat) : List (BookAuthor × Book) :=
  (db.bookAuthors.filter fun link => decide (link.authorId = authorId)).flatMap fun link =>
    (db.books.filter fun b => decide (b.id = link.bookId)).map fun b => (link, b)

def booksOfPublisher (publisherId : Nat) : List Book :=
  db.books.filter fun b => db.bookPublishers.contains (b.id, publisherId)

/-- The columns that both repositories select of a book -/
def publisherBookRow (languageId : Nat) (b : Book) : PublisherBookRow where
  book := b
  translations := (db.translationsOf b languageId).take 1
  variants := (orderBy cheaper (db.activeVariants b)).take 1

def authorBookRow (languageId : Nat) (row : BookAuthor × Book) : AuthorBookRow where
  toPublisherBookRow := db.publisherBookRow languageId row.2
  isPrimary := row.1.isPrimary

/-! ### `BookAuthorRepository` -/

def countBooksByAuthor (authorId languageId : Nat) : Nat :=
  ((db.linksOfAuthor authorId).filter fun row => db.ownBooksWhere null languageId row.2).length

def findBooksByAuthor (authorId languageId page limit : Nat) : List AuthorBookRow :=
  (pageOf page limit (orderBy (fun row row' => newer row.2 row'.2)
    ((db.linksOfAuthor authorId).filter fun row =>
      db.ownBooksWhere null languageId row.2))).map (db.authorBookRow languageId)

/-! ### `PublisherRepository` -/

def countBooksByPublisher (publisherId languageId : Nat) : Nat :=
  ((db.booksOfPublisher publisherId).filter (db.ownBooksWhere null languageId)).length

def findBooksByPublisher (publisherId languageId page limit : Nat) : List PublisherBookRow :=
  (pageOf page limit (orderBy newer
    ((db.booksOfPublisher publisherId).filter (db.ownBooksWhere null languageId)))).map
      (db.publisherBookRow languageId)

/-! ### One rule -/

/-- The catalog list shows the book. -/
def shown (languageId : Nat) (b : Book) : Bool :=
  db.buildBookListWhere languageId none b

/-- A variant that the row can take its price from -/
def HasPrice (row : PublisherBookRow) : Prop :=
  ∃ v, v ∈ row.variants ∧ v.isActive = true ∧ ∃ p, v.price = some p ∧ 0 < p

/-- What is counted and listed of an author and of a publisher is what the catalog shows. -/
structure OneVisibilityRule (languageId : Nat) : Prop where
  authorCount : ∀ authorId,
    db.countBooksByAuthor null authorId languageId =
      ((db.linksOfAuthor authorId).filter fun row => db.shown languageId row.2).length
  authorList : ∀ authorId limit b, 0 < limit →
    ((∃ page row, 0 < page ∧ row ∈ db.findBooksByAuthor null authorId languageId page limit ∧
        row.book = b) ↔
      (∃ link, (link, b) ∈ db.linksOfAuthor authorId) ∧ db.shown languageId b = true)
  authorPrice : ∀ authorId page limit row,
    row ∈ db.findBooksByAuthor null authorId languageId page limit →
      HasPrice row.toPublisherBookRow
  publisherCount : ∀ publisherId,
    db.countBooksByPublisher null publisherId languageId =
      ((db.booksOfPublisher publisherId).filter (db.shown languageId)).length
  publisherList : ∀ publisherId limit b, 0 < limit →
    ((∃ page row, 0 < page ∧ row ∈ db.findBooksByPublisher null publisherId languageId page limit ∧
        row.book = b) ↔
      b ∈ db.booksOfPublisher publisherId ∧ db.shown languageId b = true)
  publisherPrice : ∀ publisherId page limit row,
    row ∈ db.findBooksByPublisher null publisherId languageId page limit → HasPrice row

/-- Active, not deleted and translated -/
def Offered (languageId : Nat) (b : Book) : Prop :=
  b.isActive = true ∧ b.deletedAt = none ∧ db.translationsOf b languageId ≠ []

/-- Of an author or of a publisher -/
def Attributed (b : Book) : Prop :=
  (∃ link, link ∈ db.bookAuthors ∧ link.bookId = b.id) ∨
    ∃ publisherId, (b.id, publisherId) ∈ db.bookPublishers

/--
Either every variant passes the price filter and some variant is on sale, or some variant
does not pass it and none is on sale.
-/
def PricesAgree (b : Book) : Prop :=
  (∀ v, v ∈ db.variantsOf b → passesEvery null v.price = true) ∧ db.activeVariants b ≠ [] ∨
    (∃ v, v ∈ db.variantsOf b ∧ passesEvery null v.price = false) ∧ db.activeVariants b = []

section Rule

variable {db : ShelfDb} {null : Bool} {languageId limit : Nat} {b : Book}

theorem ownBooksWhere_iff :
    db.ownBooksWhere null languageId b = true ↔
      db.Offered languageId b ∧
        ∀ v, v ∈ db.variantsOf b → passesEvery null v.price = true := by
  simp [ownBooksWhere, Offered, and_assoc, and_comm, and_left_comm]

theorem shown_iff :
    db.shown languageId b = true ↔ db.Offered languageId b ∧ db.activeVariants b ≠ [] := by
  simp [shown, CatalogDb.buildBookListWhere, CatalogDb.visible, Offered, and_assoc, and_comm,
    and_left_comm]

/-- The predicates agree on a book just if its prices do, when it is offered. -/
theorem ownBooksWhere_eq_shown_iff :
    db.ownBooksWhere null languageId b = db.shown languageId b ↔
      (db.Offered languageId b → db.PricesAgree null b) := by
  rw [Bool.eq_iff_iff, ownBooksWhere_iff, shown_iff, and_congr_right_iff]
  refine imp_congr_right fun _ => ?_
  have hfails : (¬ ∀ v, v ∈ db.variantsOf b → passesEvery null v.price = true) ↔
      ∃ v, v ∈ db.variantsOf b ∧ passesEvery null v.price = false := by
    simp
  rw [PricesAgree, ← hfails]
  tauto

theorem mem_linksOfAuthor {authorId : Nat} {link : BookAuthor} :
    (link, b) ∈ db.linksOfAuthor authorId ↔
      link ∈ db.bookAuthors ∧ link.authorId = authorId ∧ b ∈ db.books ∧ b.id = link.bookId := by
  simp [linksOfAuthor, and_assoc]

theorem mem_booksOfPublisher {publisherId : Nat} :
    b ∈ db.booksOfPublisher publisherId ↔
      b ∈ db.books ∧ (b.id, publisherId) ∈ db.bookPublishers := by
  simp [booksOfPublisher]

/-- What is on the pages of a list, each row made from its element -/
theorem exists_mem_pageOf_iff
    {α ρ : Type} {before : α → α → Bool} {row : α → ρ} {l : List α} {p : ρ → Prop}
    (hlimit : 0 < limit) :
    (∃ page r, 0 < page ∧ r ∈ (pageOf page limit (orderBy before l)).map row ∧ p r) ↔
      ∃ a, a ∈ l ∧ p (row a) := by
  have hmem : ∀ a, a ∈ orderBy before l ↔ a ∈ l := fun a => (perm_orderBy before l).mem_iff
  constructor
  · rintro ⟨page, r, -, hr, hp⟩
    obtain ⟨a, ha, rfl⟩ := List.mem_map.mp hr
    exact ⟨a, (hmem a).mp (Pages.mem_of_mem_page ha), hp⟩
  · rintro ⟨a, ha, hp⟩
    obtain ⟨i, hi⟩ := (Pages.exists_mem_page_iff hlimit).mpr ((hmem a).mpr ha)
    exact ⟨i + 1, row a, Nat.succ_pos i, List.mem_map_of_mem hi, hp⟩

theorem mem_pages_author {authorId : Nat} (hlimit : 0 < limit) :
    (∃ page row, 0 < page ∧ row ∈ db.findBooksByAuthor null authorId languageId page limit ∧
        row.book = b) ↔
      (∃ link, (link, b) ∈ db.linksOfAuthor authorId) ∧
        db.ownBooksWhere null languageId b = true := by
  refine (exists_mem_pageOf_iff hlimit).trans ?_
  constructor
  · rintro ⟨⟨link, b'⟩, hrow, rfl⟩
    obtain ⟨hmem, hwhere⟩ := List.mem_filter.mp hrow
    exact ⟨⟨link, hmem⟩, hwhere⟩
  · rintro ⟨⟨link, hmem⟩, hwhere⟩
    exact ⟨(link, b), List.mem_filter.mpr ⟨hmem, hwhere⟩, rfl⟩

theorem mem_pages_publisher {publisherId : Nat} (hlimit : 0 < limit) :
    (∃ page row, 0 < page ∧
        row ∈ db.findBooksByPublisher null publisherId languageId page limit ∧ row.book = b) ↔
      b ∈ db.booksOfPublisher publisherId ∧ db.ownBooksWhere null languageId b = true := by
  refine (exists_mem_pageOf_iff hlimit).trans ?_
  constructor
  · rintro ⟨b', hrow, rfl⟩
    exact List.mem_filter.mp hrow
  · exact fun h => ⟨b, List.mem_filter.mpr h, rfl⟩

/-- A book that the catalog shows has a variant to take the price from. -/
theorem hasPrice_publisherBookRow (h : db.shown languageId b = true) :
    HasPrice (db.publisherBookRow languageId b) := by
  obtain ⟨-, hsome⟩ := shown_iff.mp h
  have hperm := perm_orderBy cheaper (db.activeVariants b)
  cases hvariants : orderBy cheaper (db.activeVariants b) with
  | nil =>
      rw [hvariants] at hperm
      exact absurd hperm.nil_eq.symm hsome
  | cons v rest =>
      have hv : v ∈ db.activeVariants b := hperm.mem_iff.mp (hvariants ▸ List.mem_cons_self)
      rw [CatalogDb.activeVariants, List.mem_filter] at hv
      simp only [Bool.and_eq_true, decide_eq_true_eq, Option.any_eq_true] at hv
      obtain ⟨-, ⟨-, hactive⟩, hprice⟩ := hv
      refine ⟨v, ?_, hactive, hprice⟩
      simp [publisherBookRow, hvariants]

/--
The rule holds just if the prices of every offered book agree that has an author or a
publisher.  It fails for a book without variants, for one with priced variants that are all
inactive, and for one with a variant on sale beside one without a price.
-/
theorem oneVisibilityRule_iff (db : ShelfDb) (null : Bool) (languageId : Nat) :
    db.OneVisibilityRule null languageId ↔
      ∀ b, b ∈ db.books → db.Attributed b → db.Offered languageId b → db.PricesAgree null b := by
  constructor
  · intro h b hb hattributed
    refine ownBooksWhere_eq_shown_iff.mp (Bool.eq_iff_iff.mpr ?_)
    rcases hattributed with ⟨link, hlink, hbook⟩ | ⟨publisherId, hpublisher⟩
    · have hof : ∃ link', (link', b) ∈ db.linksOfAuthor link.authorId :=
        ⟨link, mem_linksOfAuthor.mpr ⟨hlink, rfl, hb, hbook.symm⟩⟩
      have hlist := h.authorList link.authorId 1 b Nat.one_pos
      rw [mem_pages_author Nat.one_pos] at hlist
      simpa only [hof, true_and] using hlist
    · have hof : b ∈ db.booksOfPublisher publisherId := mem_booksOfPublisher.mpr ⟨hb, hpublisher⟩
      have hlist := h.publisherList publisherId 1 b Nat.one_pos
      rw [mem_pages_publisher Nat.one_pos] at hlist
      simpa only [hof, true_and] using hlist
  · intro h
    have hauthor : ∀ authorId row, row ∈ db.linksOfAuthor authorId →
        db.ownBooksWhere null languageId row.2 = db.shown languageId row.2 := by
      intro authorId row hrow
      obtain ⟨hlink, -, hb, hid⟩ := mem_linksOfAuthor.mp hrow
      exact ownBooksWhere_eq_shown_iff.mpr (h _ hb (.inl ⟨row.1, hlink, hid.symm⟩))
    have hpublisher : ∀ publisherId b, b ∈ db.booksOfPublisher publisherId →
        db.ownBooksWhere null languageId b = db.shown languageId b := by
      intro publisherId b hb
      obtain ⟨hmem, hlink⟩ := mem_booksOfPublisher.mp hb
      exact ownBooksWhere_eq_shown_iff.mpr (h b hmem (.inr ⟨publisherId, hlink⟩))
    refine ⟨?_, ?_, ?_, ?_, ?_, ?_⟩
    · intro authorId
      exact congrArg List.length (List.filter_congr (hauthor authorId))
    · intro authorId limit b hlimit
      rw [mem_pages_author hlimit]
      refine and_congr_right ?_
      rintro ⟨link, hlink⟩
      rw [hauthor authorId (link, b) hlink]
    · intro authorId page limit row hrow
      obtain ⟨r, hr, rfl⟩ := List.mem_map.mp hrow
      have hr := (perm_orderBy _ _).mem_iff.mp (Pages.mem_of_mem_page hr)
      obtain ⟨hmem, hwhere⟩ := List.mem_filter.mp hr
      rw [hauthor authorId r hmem] at hwhere
      exact hasPrice_publisherBookRow hwhere
    · intro publisherId
      exact congrArg List.length (List.filter_congr (hpublisher publisherId))
    · intro publisherId limit b hlimit
      rw [mem_pages_publisher hlimit]
      refine and_congr_right fun hb => ?_
      rw [hpublisher publisherId b hb]
    · intro publisherId page limit row hrow
      obtain ⟨b, hb, rfl⟩ := List.mem_map.mp hrow
      have hb := (perm_orderBy _ _).mem_iff.mp (Pages.mem_of_mem_page hb)
      obtain ⟨hmem, hwhere⟩ := List.mem_filter.mp hb
      rw [hpublisher publisherId b hmem] at hwhere
      exact hasPrice_publisherBookRow hwhere

end Rule

/-- A translated book of author 1 that has no variant -/
def bareShelf : ShelfDb where
  books := [sampleBook 1]
  variants := []
  translations :=
    [{ bookId := 1, languageId := 1, title := "Dune", description := none, slug := none }]
  bookCategories := []
  categories := []
  categoryTranslations := []
  languages := [{ id := 1, isActive := true }]
  purchaseOrderItems := []
  authors := [{ id := 1, defaultName := "Frank" }]
  bookAuthors := [{ bookId := 1, authorId := 1, isPrimary := true }]
  bookPublishers := []

/-- The author's list has a book that the catalog does not show and that has no price. -/
theorem author_counts_bareShelf :
    (¬ bareShelf.OneVisibilityRule true 1) ∧ ¬ bareShelf.OneVisibilityRule false 1 :=
  ⟨fun h => absurd (h.authorCount 1) (by decide +kernel),
    fun h => absurd (h.authorCount 1) (by decide +kernel)⟩

end ShelfDb

end BookStore
