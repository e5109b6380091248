import FlashSale.Proofs.Http.Transparency

/-! # The cookies of a request

    However the pairs are spread over cookie headers, whatever malformed pieces
    stand between them and whatever other headers, a request has these cookies,
    in their order.  So of equal names the first one counts, and a malformed
    piece neither hides it nor takes its place. -/

namespace FlashSale.Http

open Text

/-- The value is the first that has the name. -/
def IsFirst (name value : String) (pairs : List (String × String)) : Prop :=
  ∃ before after, pairs = before ++ (name, value) :: after ∧ ∀ pair ∈ before, pair.1 ≠ name

theorem cookies_of_route {m : Message} {minted : RequestId} {time : Int64} {r : Request}
    (h : route minted time m = .asked r) : r.cookies = m.cookies := by
  rw [route] at h
  split at h
  case isTrue => cases h
  split at h
  case isFalse => cases h
  split at h
  case h_1 => cases h
  split at h
  case h_1 => cases h
  case h_2 =>
    obtain rfl := Routed.asked.inj h
    rfl

theorem lookup_eq_some_iff {pairs : List (String × String)} {name value : String} :
    pairs.lookup name = some value ↔ IsFirst name value pairs := by
  rw [List.lookup_eq_some_iff]
  refine exists₂_congr fun before after => and_congr_right fun _ => forall₂_congr fun pair _ => ?_
  rw [bne_iff_ne, ne_comm]

/-- The cookies that a request brings are those that the headers tell, and a
    look-up finds the first of the name.  Every request can bring its cookies
    so. -/
theorem cookies_eq_flatten_of_headerTells_and_exists_asked :
    (∀ (m : Message) (groups : List (List (String × String))),
      List.Forall₂ HeaderTells (m.sent "cookie") groups →
        m.cookies = groups.flatten ∧
        ∀ minted time r, route minted time m = .asked r →
          r.cookies = groups.flatten ∧
          ∀ name value, r.cookies.lookup name = some value ↔ IsFirst name value groups.flatten) ∧
    ∀ (r : Request) (groups : List (List (String × String))), groups.flatten = r.cookies →
      (∀ cookie ∈ r.cookies, cookie.1 ≠ "") →
        ∃ m : Message, List.Forall₂ HeaderTells (m.sent "cookie") groups ∧
          ∀ minted, route minted r.time m = .asked r := by
  constructor
  · intro m groups hgroups
    have hcookies := Message.cookies_eq hgroups
    refine ⟨hcookies, ?_⟩
    intro minted time r hroute
    rw [cookies_of_route hroute, hcookies]
    exact ⟨rfl, fun name value => lookup_eq_some_iff⟩
  · intro r groups hgroups hnames
    obtain ⟨m, hm⟩ := exists_conveys r groups
    exact ⟨m, forall₂_headerTells_spelled hm.cookies (hgroups ▸ hnames), hm.route_eq hgroups hnames⟩

/-- A user who is named twice, in the first of two headers, behind pieces of
    every malformed kind; the one right before has the same name.  The other
    header stands behind a header of another name. -/
theorem cookies_eq_flatten_of_headerTells_and_exists_asked_behind_malformed :
    let m : Message :=
      { method := "GET"
        target := "/secinfo"
        headers := [("COOKIE", "%ff=1;=x;; none ; userId=%FF;\t%75serId = 7\t; userId=8"),
          ("Host", "x"), ("cookie", "%20b=a=c")] }
    let groups := [[("userId", "7"), ("userId", "8")], [(" b", "a=c")]]
    let r : Request :=
      { kind := .info, query := [], cookies := groups.flatten, time := 5, id := .ofNat 7 }
    List.Forall₂ HeaderTells (m.sent "cookie") groups ∧ m.cookies = groups.flatten ∧
      route (.ofNat 7) 5 m = .asked r ∧ IsFirst "userId" "7" groups.flatten ∧
      r.cookies.lookup "userId" = some "7" ∧ (∀ cookie ∈ r.cookies, cookie.1 ≠ "") ∧
      ∃ m' : Message, List.Forall₂ HeaderTells (m'.sent "cookie") groups ∧
        ∀ minted, route minted 5 m' = .asked r := by
  intro m groups r
  have hnothing {piece : String} (h : decodeCookie? piece.toList = none) : Malformed piece.toList :=
    decodeCookie?_eq_none_iff.mp h
  have hseven : WritesPair "\t%75serId = 7\t".toList ("userId", "7") := by
    have hname : Percent.Encodes KeptInName "userId".toList ("%75".toList ++ "serId".toList) :=
      .escaped (by decide) (.of_kept (by decide))
    exact ⟨by decide, _, _, "\t%75serId ".toList, " 7\t".toList, by decide, hname,
      padded_of_trim_eq (by decide), .of_kept (by decide), padded_of_trim_eq (by decide)⟩
  have height : WritesPair " userId=8".toList ("userId", "8") :=
    ⟨by decide, _, _, " userId".toList, "8".toList, by decide, .of_kept (by decide),
      padded_of_trim_eq (by decide), .of_kept (by decide), padded_of_trim_eq (by decide)⟩
  have hblank : WritesPair "%20b=a=c".toList (" b", "a=c") := by
    have hname : Percent.Encodes KeptInName " b".toList ("%20".toList ++ "b".toList) :=
      .escaped (by decide) (.of_kept (by decide))
    exact ⟨by decide, _, _, "%20b".toList, "a=c".toList, by decide, hname,
      padded_of_trim_eq (by decide), .of_kept (by decide), padded_of_trim_eq (by decide)⟩
  have hfirst : HeaderTells "%ff=1;=x;; none ; userId=%FF;\t%75serId = 7\t; userId=8"
      [("userId", "7"), ("userId", "8")] := by
    refine ⟨["%ff=1".toList, "=x".toList, "".toList, " none ".toList, " userId=%FF".toList,
      "\t%75serId = 7\t".toList, " userId=8".toList], splitOn_eq_iff.mp (by decide +kernel), ?_⟩
    apply Tells.malformed (hnothing (by decide +kernel))
    apply Tells.malformed (hnothing (by decide +kernel))
    apply Tells.malformed (hnothing (by decide +kernel))
    apply Tells.malformed (hnothing (by decide +kernel))
    apply Tells.malformed (hnothing (by decide +kernel))
    exact .pair hseven (.pair height .nil)
  have hsecond : HeaderTells "%20b=a=c" [(" b", "a=c")] :=
    ⟨[_], splitOn_eq_iff.mp (by decide +kernel), .pair hblank .nil⟩
  have hsent : m.sent "cookie" =
      ["%ff=1;=x;; none ; userId=%FF;\t%75serId = 7\t; userId=8", "%20b=a=c"] := by
    decide +kernel
  have htells : List.Forall₂ HeaderTells (m.sent "cookie") groups := by
    rw [hsent]
    exact .cons hfirst (.cons hsecond .nil)
  have hroute : route (.ofNat 7) 5 m = .asked r := by decide +kernel
  have hnames : ∀ cookie ∈ r.cookies, cookie.1 ≠ "" := by decide
  have huser : IsFirst "userId" "7" groups.flatten := ⟨[], _, rfl, by simp⟩
  obtain ⟨hcookies, hasked⟩ := cookies_eq_flatten_of_headerTells_and_exists_asked.1 m groups htells
  obtain ⟨-, hlookup⟩ := hasked _ _ r hroute
  exact ⟨htells, hcookies, hroute, huser, (hlookup "userId" "7").mpr huser, hnames,
    cookies_eq_flatten_of_headerTells_and_exists_asked.2 r groups rfl hnames⟩

end FlashSale.Http
