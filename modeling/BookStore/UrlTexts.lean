import BookStore.Email.Services
import BookStore.Percent
import BookStore.QrPayment

/-!
# URLs as texts

The URL of a QR code is written by `URLSearchParams`, and the link of a mail with
`encodeURIComponent`.

* `readUrl` is how a URL is read: what stands before the query, and the query.
* `qrUrls_read`: in every reachable state the URL of an intent is read as the account, the total
  of its order, where this is a whole number, and the code of the order, and no two intents have
  the same one.
* `links_read`: a link is read as the page it leads to and the token.
-/

namespace BookStore

open Async Percent

/-! ### What is written as it is -/

def isAlphanumeric (b : UInt8) : Bool :=
  decide (48 ≤ b.toNat ∧ b.toNat ≤ 57 ∨ 65 ≤ b.toNat ∧ b.toNat ≤ 90 ∨
    97 ≤ b.toNat ∧ b.toNat ≤ 122)

theorem lt_of_isAlphanumeric {b : UInt8} (h : isAlphanumeric b = true) : b.toNat < 128 := by
  have := of_decide_eq_true h
  omega

/-- Letters, digits and `-_.!~*'()` -/
def plainInComponent (b : UInt8) : Bool :=
  isAlphanumeric b || [45, 95, 46, 33, 126, 42, 39, 40, 41].contains b

/-- Letters, digits and `*-._` -/
def plainInSearchParams (b : UInt8) : Bool :=
  isAlphanumeric b || [42, 45, 46, 95].contains b

theorem lt_of_plain
    {signs : List UInt8} (hsigns : signs.all (fun sign => decide (sign.toNat < 128)) = true)
    {b : UInt8} (h : (isAlphanumeric b || signs.contains b) = true) : b.toNat < 128 := by
  rcases Bool.or_eq_true_iff.mp h with hword | hsign
  · exact lt_of_isAlphanumeric hword
  · exact of_decide_eq_true (List.all_eq_true.mp hsigns b (List.contains_iff_mem.mp hsign))

theorem plainInComponent_ascii (b : UInt8) : plainInComponent b = true → b.toNat < 128 :=
  lt_of_plain (by decide)

theorem plainInSearchParams_ascii (b : UInt8) : plainInSearchParams b = true → b.toNat < 128 :=
  lt_of_plain (by decide)

theorem plainInComponent_percent : plainInComponent 37 = false := by decide
theorem plainInComponent_plus : plainInComponent 43 = false := by decide
theorem plainInComponent_separators :
    plainInComponent 38 = false ∧ plainInComponent 61 = false := by decide
theorem plainInSearchParams_percent : plainInSearchParams 37 = false := by decide
theorem plainInSearchParams_plus : plainInSearchParams 43 = false := by decide
theorem plainInSearchParams_separators :
    plainInSearchParams 38 = false ∧ plainInSearchParams 61 = false := by decide

/-- `encodeURIComponent` -/
def uriComponent : Escaping where
  plain := plainInComponent
  plus := false
  ascii := plainInComponent_ascii
  percent := plainInComponent_percent
  blank := plainInComponent_plus
  separators := plainInComponent_separators

/-- `URLSearchParams` -/
def searchParams : Escaping where
  plain := plainInSearchParams
  plus := true
  ascii := plainInSearchParams_ascii
  percent := plainInSearchParams_percent
  blank := plainInSearchParams_plus
  separators := plainInSearchParams_separators

/-! ### Reading -/

/-- What stands before the query, and the query -/
def readUrl (e : Escaping) (text : List Char) : List Char × Option (List (String × String)) :=
  (text.takeWhile (· ≠ '?'), e.readQuery ((text.dropWhile (· ≠ '?')).drop 1))

theorem readUrl_append
    {e : Escaping} {page : List Char} (hpage : '?' ∉ page) (query : List Char) :
    readUrl e (page ++ '?' :: query) = (page, e.readQuery query) := by
  have hall : ∀ c, c ∈ page → decide (c ≠ '?') = true := by
    intro c hc
    refine decide_eq_true ?_
    rintro rfl
    exact hpage hc
  rw [readUrl, List.takeWhile_append_of_pos hall, List.dropWhile_append_of_pos hall]
  simp

/-! ### QR codes -/

def qrPage : List Char := "https://qr.sepay.vn/img".toList

/-- The parameters of the URL, with the text of the amount -/
def QrUrl.params (amount : String) (url : QrUrl) : List (String × String) :=
  [("bank", url.bank), ("acc", url.acc), ("template", url.template), ("amount", amount),
    ("des", url.des)]

/-- The text of the URL -/
def QrUrl.text (amount : String) (url : QrUrl) : List Char :=
  qrPage ++ '?' :: searchParams.query (url.params amount)

theorem readUrl_text (amount : String) (url : QrUrl) :
    readUrl searchParams (url.text amount) = (qrPage, some (url.params amount)) := by
  rw [QrUrl.text, readUrl_append (by decide), Escaping.readQuery_query id]

theorem des_of_text
    {amount amount' : String} {url url' : QrUrl}
    (h : url.text amount = url'.text amount') :
    url.des = url'.des := by
  have hread := congrArg (readUrl searchParams) h
  rw [readUrl_text, readUrl_text] at hread
  simp only [QrUrl.params, Prod.mk.injEq, Option.some.injEq, List.cons.injEq, true_and] at hread
  exact hread.2.2.2.2.1

/-- `toString` of a number writes a whole number with its digits. -/
def WritesWhole (numeral : ℚ → String) : Prop :=
  ∀ n : ℤ, |(n : ℚ)| ≤ 2 ^ 53 → numeral n = toString n

variable (dep : Deployment)

/--
In every state of a run an intent that is there belongs to an order.  Where the prices of its
variants are whole and doubles hold the amounts, the total is a whole number, which the code
computes exactly, and the URL of the intent is read as the account of the shop, the digits of
this number and the code of the order.  No other intent has this URL, whatever the amounts look
like.
-/
theorem qrUrls_read
    {numeral : ℚ → String} (hnumeral : WritesWhole numeral)
    {w : World} {c : ServerState} {as : List (Action Event)}
    (hw : Fresh w)
    (hrun : runs (server dep).step ⟨w, []⟩ as = some c) :
    ∀ i, i ∈ c.world.db.paymentIntents.rows → ∃ o, o ∈ c.world.db.orders.rows ∧
      i.orderCode = o.orderCode ∧ ∃ url, i.paymentUrl = some url ∧
        (WholeTotal (priceIn w) o.requested → ∃ n : ℤ, o.totalAmount = some (n : ℚ) ∧
          (∀ d, totalInDoubles d (priceIn w) o.requested = n) ∧
          readUrl searchParams (url.text (numeral url.amount)) = (qrPage,
            some [("bank", dep.bank), ("acc", dep.acc), ("template", dep.template),
              ("amount", toString n), ("des", o.orderCode)])) ∧
        ∀ j, j ∈ c.world.db.paymentIntents.rows → ∀ url', j.paymentUrl = some url' →
          ∀ amount amount', url'.text amount' = url.text amount → j = i := by
  intro i hi
  have hinv : QrInv dep (priceIn w) c.world := qr_runs hw hrun
  obtain ⟨o, ho, hasks⟩ := hinv.asks i hi
  refine ⟨o, ho, hasks.orderCode, _, hasks.paymentUrl, fun hwhole => ?_, ?_⟩
  · obtain ⟨n, hn⟩ := isWhole_iff.mp hwhole.isWhole
    have htotal : o.totalAmount = some (n : ℚ) := by
      rw [hinv.total o ho, hn]
    have hsize : |(n : ℚ)| ≤ 2 ^ 53 := hn ▸ hwhole.abs_le
    refine ⟨n, htotal, fun d => (totalInDoubles_eq d hwhole).trans hn, ?_⟩
    rw [readUrl_text, htotal, Option.getD_some]
    show (qrPage, some [_, _, _, ("amount", numeral n), _]) = _
    rw [hnumeral n hsize]
    rfl
  · intro j hj url' hurl' amount amount' htext
    obtain ⟨o', -, hasks'⟩ := hinv.asks j hj
    have hurl : url' = (generateQrUrl dep (o'.totalAmount.getD 0) o'.orderCode).paymentUrl :=
      Option.some.inj (hurl'.symm.trans hasks'.paymentUrl)
    have hcode : o'.orderCode = o.orderCode := by
      rw [hurl] at htext
      exact des_of_text htext
    exact hinv.unique j hj i hi (by rw [hasks'.orderCode, hcode, hasks.orderCode])

theorem qrUrls_read_placedUnpaid :
    ∃ c i o url, runs (server sampleDeployment).step ⟨sampleWorld 10, []⟩ placedUnpaid = some c ∧
      i ∈ c.world.db.paymentIntents.rows ∧ o ∈ c.world.db.orders.rows ∧
      i.paymentUrl = some url ∧ ∃ n : ℤ, o.totalAmount = some (n : ℚ) ∧
        (readUrl searchParams (url.text (toString url.amount.num))).2 =
          some [("bank", sampleDeployment.bank), ("acc", sampleDeployment.acc),
            ("template", sampleDeployment.template), ("amount", toString n),
            ("des", o.orderCode)] := by
  obtain ⟨c, hrun, hany⟩ := (Option.any_eq_true
    (fun c : ServerState => (c.world.db.paymentIntents.rows.any fun _ => true) &&
      c.world.db.orders.rows.all fun o =>
        decide (WholeTotal (priceIn (sampleWorld 10)) o.requested)) _).mp
    (by decide +kernel : (runs (server sampleDeployment).step ⟨sampleWorld 10, []⟩
      placedUnpaid).any _ = true)
  obtain ⟨hintent, horders⟩ := Bool.and_eq_true_iff.mp hany
  obtain ⟨i, hi, -⟩ := List.any_eq_true.mp hintent
  have hnumeral : WritesWhole fun q => toString q.num := fun n _ =>
    congrArg toString (Rat.num_intCast n)
  obtain ⟨o, ho, -, url, hurl, hread, -⟩ :=
    qrUrls_read sampleDeployment hnumeral (sampleWorld_fresh 10) hrun i hi
  obtain ⟨n, hn, -, htext⟩ := hread (of_decide_eq_true (List.all_eq_true.mp horders o ho))
  exact ⟨c, i, o, url, hrun, hi, ho, hurl, n, hn, congrArg Prod.snd htext⟩

/-! ### Links of mails -/

namespace Email

/-- The text of a link -/
def Link.text (l : Link) : List Char :=
  (l.base.toList ++ '/' :: l.path.toList) ++
    '?' :: (l.key.toList ++ '=' :: uriComponent.encode l.token)

/-- The names of the parameters are plain. -/
theorem encode_getTokenParamKey (path : VerifyCodePath) :
    uriComponent.encode (getTokenParamKey path) = (getTokenParamKey path).toList := by
  cases path <;> decide

theorem not_mem_path (path : VerifyCodePath) : '?' ∉ path.text.toList := by
  cases path <;> decide

theorem not_mem_base
    (path : VerifyCodePath) (token : String) {originUrl : Option String}
    (horigin : '?' ∉ (originUrl.getD "").toList) :
    '?' ∉ (generateLinkWithType path token originUrl).base.toList := by
  unfold generateLinkWithType
  dsimp only
  cases htruthy : truthy originUrl with
  | none =>
      decide
  | some url =>
      have hurl : originUrl = some url := (Option.filter_eq_some_iff.mp htruthy).1
      rw [hurl] at horigin
      dsimp only
      split_ifs
      · rw [String.toList_ofList]
        exact fun hmem => horigin ((List.dropLast_prefix url.toList).subset hmem)
      · exact horigin

/--
The text of a link is read as the page it leads to, with the token as the parameter of that
page, whatever characters are in the token and whether or not the page reads a plus as a blank;
the page and the token can be told from it.
-/
theorem links_read
    (path : VerifyCodePath) (token : String) (originUrl : Option String)
    (horigin : '?' ∉ (originUrl.getD "").toList) :
    (∀ reader, readUrl reader (generateLinkWithType path token originUrl).text =
        ((generateLinkWithType path token originUrl).base.toList ++ '/' :: path.text.toList,
          some [(getTokenParamKey path, token)])) ∧
      ∀ path' token', (generateLinkWithType path' token' originUrl).text =
          (generateLinkWithType path token originUrl).text → path' = path ∧ token' = token := by
  have hread : ∀ path token reader,
      readUrl reader (generateLinkWithType path token originUrl).text =
        ((generateLinkWithType path token originUrl).base.toList ++ '/' :: path.text.toList,
          some [(getTokenParamKey path, token)]) := by
    intro path token reader
    have hpage : '?' ∉ (generateLinkWithType path token originUrl).base.toList ++
        '/' :: path.text.toList := by
      simp [not_mem_base path token horigin, not_mem_path path]
    have hquery : uriComponent.query [(getTokenParamKey path, token)] =
        (getTokenParamKey path).toList ++ '=' :: uriComponent.encode token := by
      simp [Escaping.query, Escaping.entry, encode_getTokenParamKey]
    -- no plus is written
    have hplus : uriComponent.plus = true → reader.plus = true := fun h => by cases h
    show readUrl reader (((generateLinkWithType path token originUrl).base.toList ++
      '/' :: path.text.toList) ++ '?' :: ((getTokenParamKey path).toList ++
        '=' :: uriComponent.encode token)) = _
    rw [readUrl_append hpage, ← hquery, Escaping.readQuery_query hplus]
  refine ⟨hread path token, fun path' token' h => ?_⟩
  have hpairs := congrArg (fun text => (readUrl uriComponent text).2) h
  simp only [hread, Option.some.injEq, List.cons.injEq, Prod.mk.injEq, and_true] at hpairs
  refine ⟨?_, hpairs.2⟩
  have hkey := hpairs.1
  revert hkey
  cases path <;> cases path' <;> decide

theorem links_read_resetPassword :
    readUrl searchParams
        (generateLinkWithType .resetPassword "a+b&c=đ" (some "https://shop.vn/")).text =
      ("https://shop.vn/reset-password".toList, some [("verify-token", "a+b&c=đ")]) :=
  (links_read .resetPassword "a+b&c=đ" (some "https://shop.vn/") (by decide)).1 searchParams

end Email

end BookStore
