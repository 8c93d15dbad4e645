import NamePattern.CharRegex.Packed

/-! Equality of characters up to case. -/
namespace NamePattern.CharRegex

/-- All characters that differ from some other one in case only, together with these. -/
def caseVariants : List String :=
  ["Y2W101W101W101W101W101W101W101W101W101W101W1ir801W101W101W101W101W101W101W101W1p801W101W101",
   "W101W101W101W101W10y2zNW10BW101W101W101W101W101W1ln801W101W101W101W101W101W101W101W101W101W",
   "101W101W101W101W101W101W101W102W101W101W101W101W101W101W101px70W1x3011021021021021021021021",
   "0210210210210210210210210210210210210210210210210410210210310210210210210210210210310210210",
   "2102102102102102102102102102102102102102102102102102102102103102102103e601t601102102p601102",
   "o601o601103m201l601m601102o601q601Z301u601s601102d501ydi101u601w601b401x601102102102W701102",
   "W703102W701102V701V701102102X701104103u1051103110311031021021021021021021021031021021021021",
   "0210210210210311031041021021021021021021021021021021021021021021021021021021021041021021021",
   "02102102102102108ccB01103ZcB01wcB01wcB01103c201e201102102102102102vbB01sbB01ubB0AZWi105VWi1",
   "03xWi101wzh101tVi104tVi101maB01qVi105saB0CWaB05sVi105yzh10Mdzh101azh10h5r2W1hj70h1102104105",
   "b401b401b402s307c102b101b101b102X202W201W201hl701W101W1U01W101W101W1X201W101W101W1PZ102W1s1",
   "01W102W101W101W101W1M01W1m102V1101W101W101W1F01W101W101W1ku701W101W105wk70V1809102102102102",
   "102102102102102102102104705103106n201n201n201n201n201n201n201n201n201n201n201n201n201n201n2",
   "01n201W101W101W1rj601W101W1qj601W101W101W101W101W101W101W101W101W101W1hj601W101W101W1fj601W",
   "1fj6101W101W101W101W101W101W101W101W1Zj601W101W101W101W101W10n11021gi6021021021021021021021",
   "0210210210210210210210210A10210210210210210210210210210210210210210210210210210210210210210",
   "2102102102102102F01102102102102102102103102102102102102102102102102102102102102102102102102",
   "1021021021021021021021021021021021021021021021021021021021021021021021021021021021021021021",
   "03m101m101m101m101m101m101m101m101m101m101m101m101m101m101m101m101m101m101m101m101m101m101m",
   "101m101m101m101m101m101m101m101m101m101m101m101m101m101m101m10cV3fm701fm701fm701fm701fm701f",
   "m701fm701fm701fm701fm701fm701fm701fm701fm701fm701fm701fm701fm701fm701fm701fm701fm701fm701fm",
   "701fm701fm701fm701fm701fm701fm701fm701fm701fm701fm701fm701fm701fm701fm702fm706fm703WZ301WZ3",
   "01WZ301WZ301WZ301WZ301WZ301WZ301WZ301WZ301WZ301WZ301WZ301WZ301WZ301WZ301WZ301WZ301WZ301WZ30",
   "1WZ301WZ301WZ301WZ301WZ301WZ301WZ301WZ301WZ301WZ301WZ301WZ301WZ301WZ301WZ301WZ301WZ301WZ301",
   "WZ301WZ301WZ301WZ301WZ303WZ301WZ301WZ30rLqie101qie101qie101qie101qie101qie101qie101qie101qi",
   "e101qie101qie101qie101qie101qie101qie101qie101qie101qie101qie101qie101qie101qie101qie101qie",
   "101qie101qie101qie101qie101qie101qie101qie101qie101qie101qie101qie101qie101qie101qie101qie1",
   "01qie101qie101qie101qie101qie101qie101qie101qie101qie101qie101qie101qie101qie101qie101qie10",
   "1qie101qie101qie101qie101qie101qie101qie101qie101qie101qie101qie101qie101qie101qie101qie101",
   "qie101qie101qie101qie101qie101qie101qie101qie101qie101qie101qie10180180180180180180ud2oqa11",
   "0110s7ssa104Wz30Hiua10q31021021021021021021021021021021021021021021021021021021021021021021",
   "021021021021021021021021021021021021021021021021021021021021021021021021021021w102102102102",
   "10210210210210210210210210210210210210210210210210210210210210210210C1021021021021021021021",
   "0210210210210210210210210210210210210210210210210210210210210210210210210210210210210210210",
   "210210210210210210210210210210280180180180180180180180980180180180180180B801801801801801801",
   "80180980180180180180180180180980180180180180180C802802802809801801801801801801801809h201h20",
   "1t201t201t201t201c301c301Z401Z401o301o301X401X403801801801801801801801809801801801801801801",
   "80180980180180180180180180180980180290G90D80180F80180470E90eAS0k1G01G01G01G01G01G01G01G01G0",
   "1G01G01G01G01G01G01G0K10iQQ01Q01Q01Q01Q01Q01Q01Q01Q01Q01Q01Q01Q01Q01Q01Q01Q01Q01Q01Q01Q01Q0",
   "1Q01Q01Q01Q0hx1m101m101m101m101m101m101m101m101m101m101m101m101m101m101m101m101m101m101m101",
   "m101m101m101m101m101m101m101m101m101m101m101m101m101m101m101m101m101m101m101m101m101m101m10",
   "1m101m101m101m101m101m10n110710210210710310B10210210210210210210210210210210210210210210210",
   "2102102102102102102102102102102102102102102102102102102102102102102102102102102102102102102",
   "10210210210910210510seW110210210210210410210210210210210210210210210210210210210210210210K1",
   "0210210210210210210210210210210210210210h41021021021021021021041021021021021021021021021021",
   "0210210210210210210210210210210210210210210210210210210210210210B10210310210210210210510510",
   "2102m10210210210210210210210210210210ByT0110210210210210210210210510210310410610210210R10yY",
   "M10yX1W101W101W101W101W101W101W101W101W101W101W101W101W101W101W101W101W101W101W101W101W101W",
   "101W101W101W101W10id1e101e101e101e101e101e101e101e101e101e101e101e101e101e101e101e101e101e1",
   "01e101e101e101e101e101e101e101e101e101e101e101e101e101e101e101e101e101e101e101e101e101e10i4",
   "e101e101e101e101e101e101e101e101e101e101e101e101e101e101e101e101e101e101e101e101e101e101e10",
   "1e101e101e101e101e101e101e101e101e101e101e101e101e10X5d101d101d101d101d101d101d101d101d101d",
   "101d102d101d101d101d101d101d101d101d101d101d101d101d101d101d101d102d101d101d101d101d101d101",
   "d102d101d10Zv1X201X201X201X201X201X201X201X201X201X201X201X201X201X201X201X201X201X201X201X",
   "201X201X201X201X201X201X201X201X201X201X201X201X201X201X201X201X201X201X201X201X201X201X201",
   "X201X201X201X201X201X201X201X201X20Y5W101W101W101W101W101W101W101W101W101W101W101W101W101W1",
   "01W101W101W101W101W101W101W101W10sz2W101W101W101W101W101W101W101W101W101W101W101W101W101W10",
   "1W101W101W101W101W101W101W101W101W101W101W101W101W101W101W101W101W101W10YtMW101W101W101W101",
   "W101W101W101W101W101W101W101W101W101W101W101W101W101W101W101W101W101W101W101W101W101W101W10",
   "1W101W101W101W101W10qpW1Y101Y101Y101Y101Y101Y101Y101Y101Y101Y101Y101Y101Y101Y101Y101Y101Y10",
   "1Y101Y101Y101Y101Y101Y101Y101Y101Y101Y101Y101Y101Y101Y101Y101Y101Y10"]

namespace CharSet

/-- The set with all characters that differ from one of its own in case only. -/
def folded (s : CharSet) : CharSet :=
  let variants := (Packed.lists caseVariants).filter fun ns =>
    ns.any fun n => s.runs.any fun (lo, hi) => lo ≤ n && n ≤ hi
  ofRuns (s.runs ++ variants.flatten.map fun n => (n, n))

/-- A set of ASCII characters with the other case of its letters. -/
def foldedAscii (s : CharSet) : CharSet :=
  let letters (lower upper : Nat) : List (Nat × Nat) :=
    (List.range 26).flatMap fun i =>
      let inSet (n : Nat) : Bool := s.runs.any fun (lo, hi) => lo ≤ n && n ≤ hi
      if inSet (lower + i) || inSet (upper + i) then
        [(lower + i, lower + i), (upper + i, upper + i)]
      else []
  ofRuns (s.runs ++ letters 97 65)

end CharSet

end NamePattern.CharRegex
