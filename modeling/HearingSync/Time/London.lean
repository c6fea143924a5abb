import HearingSync.Time.WallClock
/-!
Civil time in London: every change of the clocks from the end of local mean time in 1847 to the
last one of 2099, and the clock reading an instant has there. After the last entry the clocks stay
as they are.
-/

namespace HearingSync

namespace London

def localMeanOffset : Int := -75

/-- The instants, in seconds of the epoch, at which the offset changes, each with the offset in
seconds from then on. -/
def transitions : List (Int × Int) :=
  [(-3852662325, 0), (-1691964000, 3600), (-1680472800, 0), (-1664143200, 3600), (-1650146400, 0),
   (-1633903200, 3600), (-1617487200, 0), (-1601848800, 3600), (-1586037600, 0),
   (-1570399200, 3600), (-1552168800, 0), (-1538344800, 3600), (-1522533600, 0),
   (-1507500000, 3600), (-1490565600, 0), (-1473631200, 3600), (-1460930400, 0),
   (-1442786400, 3600), (-1428876000, 0), (-1410732000, 3600), (-1396216800, 0),
   (-1379282400, 3600), (-1364767200, 0), (-1348437600, 3600), (-1333317600, 0),
   (-1315778400, 3600), (-1301263200, 0), (-1284328800, 3600), (-1269813600, 0),
   (-1253484000, 3600), (-1238364000, 0), (-1221429600, 3600), (-1206914400, 0),
   (-1189980000, 3600), (-1175464800, 0), (-1159135200, 3600), (-1143410400, 0),
   (-1126476000, 3600), (-1111960800, 0), (-1095631200, 3600), (-1080511200, 0),
   (-1063576800, 3600), (-1049061600, 0), (-1032127200, 3600), (-1017612000, 0),
   (-1001282400, 3600), (-986162400, 0), (-969228000, 3600), (-950479200, 0), (-942012000, 3600),
   (-904518000, 7200), (-896050800, 3600), (-875487600, 7200), (-864601200, 3600),
   (-844038000, 7200), (-832546800, 3600), (-812588400, 7200), (-798073200, 3600),
   (-781052400, 7200), (-772066800, 3600), (-764805600, 0), (-748476000, 3600), (-733356000, 0),
   (-719445600, 3600), (-717030000, 7200), (-706748400, 3600), (-699487200, 0),
   (-687996000, 3600), (-668037600, 0), (-654732000, 3600), (-636588000, 0), (-622072800, 3600),
   (-605743200, 0), (-590623200, 3600), (-574293600, 0), (-558568800, 3600), (-542239200, 0),
   (-527119200, 3600), (-512604000, 0), (-496274400, 3600), (-481154400, 0), (-464220000, 3600),
   (-449704800, 0), (-432165600, 3600), (-417650400, 0), (-401320800, 3600), (-386200800, 0),
   (-369266400, 3600), (-354751200, 0), (-337816800, 3600), (-323301600, 0), (-306972000, 3600),
   (-291852000, 0), (-276732000, 3600), (-257983200, 0), (-245282400, 3600), (-226533600, 0),
   (-213228000, 3600), (-195084000, 0), (-182383200, 3600), (-163634400, 0), (-150933600, 3600),
   (-132184800, 0), (-119484000, 3600), (-100735200, 0), (-88034400, 3600), (-68680800, 0),
   (-59004000, 3600), (57722400, 0), (69818400, 3600), (89172000, 0), (101268000, 3600),
   (120621600, 0), (132717600, 3600), (152071200, 0), (164167200, 3600), (183520800, 0),
   (196221600, 3600), (214970400, 0), (227671200, 3600), (246420000, 0), (259120800, 3600),
   (278474400, 0), (290570400, 3600), (309924000, 0), (322020000, 3600), (341373600, 0),
   (354675600, 3600), (372819600, 0), (386125200, 3600), (404269200, 0), (417574800, 3600),
   (435718800, 0), (449024400, 3600), (467773200, 0), (481078800, 3600), (499222800, 0),
   (512528400, 3600), (530672400, 0), (543978000, 3600), (562122000, 0), (575427600, 3600),
   (593571600, 0), (606877200, 3600), (625626000, 0), (638326800, 3600), (657075600, 0),
   (670381200, 3600), (688525200, 0), (701830800, 3600), (719974800, 0), (733280400, 3600),
   (751424400, 0), (764730000, 3600), (782874000, 0), (796179600, 3600), (814323600, 0),
   (828234000, 3600), (846378000, 0), (859683600, 3600), (877827600, 0), (891133200, 3600),
   (909277200, 0), (922582800, 3600), (941331600, 0), (954032400, 3600), (972781200, 0),
   (985482000, 3600), (1004230800, 0), (1017536400, 3600), (1035680400, 0), (1048986000, 3600),
   (1067130000, 0), (1080435600, 3600), (1099184400, 0), (1111885200, 3600), (1130634000, 0),
   (1143334800, 3600), (1162083600, 0), (1174784400, 3600), (1193533200, 0), (1206838800, 3600),
   (1224982800, 0), (1238288400, 3600), (1256432400, 0), (1269738000, 3600), (1288486800, 0),
   (1301187600, 3600), (1319936400, 0), (1332637200, 3600), (1351386000, 0), (1364691600, 3600),
   (1382835600, 0), (1396141200, 3600), (1414285200, 0), (1427590800, 3600), (1445734800, 0),
   (1459040400, 3600), (1477789200, 0), (1490490000, 3600), (1509238800, 0), (1521939600, 3600),
   (1540688400, 0), (1553994000, 3600), (1572138000, 0), (1585443600, 3600), (1603587600, 0),
   (1616893200, 3600), (1635642000, 0), (1648342800, 3600), (1667091600, 0), (1679792400, 3600),
   (1698541200, 0), (1711846800, 3600), (1729990800, 0), (1743296400, 3600), (1761440400, 0),
   (1774746000, 3600), (1792890000, 0), (1806195600, 3600), (1824944400, 0), (1837645200, 3600),
   (1856394000, 0), (1869094800, 3600), (1887843600, 0), (1901149200, 3600), (1919293200, 0),
   (1932598800, 3600), (1950742800, 0), (1964048400, 3600), (1982797200, 0), (1995498000, 3600),
   (2014246800, 0), (2026947600, 3600), (2045696400, 0), (2058397200, 3600), (2077146000, 0),
   (2090451600, 3600), (2108595600, 0), (2121901200, 3600), (2140045200, 0), (2153350800, 3600),
   (2172099600, 0), (2184800400, 3600), (2203549200, 0), (2216250000, 3600), (2234998800, 0),
   (2248304400, 3600), (2266448400, 0), (2279754000, 3600), (2297898000, 0), (2311203600, 3600),
   (2329347600, 0), (2342653200, 3600), (2361402000, 0), (2374102800, 3600), (2392851600, 0),
   (2405552400, 3600), (2424301200, 0), (2437606800, 3600), (2455750800, 0), (2469056400, 3600),
   (2487200400, 0), (2500506000, 3600), (2519254800, 0), (2531955600, 3600), (2550704400, 0),
   (2563405200, 3600), (2582154000, 0), (2595459600, 3600), (2613603600, 0), (2626909200, 3600),
   (2645053200, 0), (2658358800, 3600), (2676502800, 0), (2689808400, 3600), (2708557200, 0),
   (2721258000, 3600), (2740006800, 0), (2752707600, 3600), (2771456400, 0), (2784762000, 3600),
   (2802906000, 0), (2816211600, 3600), (2834355600, 0), (2847661200, 3600), (2866410000, 0),
   (2879110800, 3600), (2897859600, 0), (2910560400, 3600), (2929309200, 0), (2942010000, 3600),
   (2960758800, 0), (2974064400, 3600), (2992208400, 0), (3005514000, 3600), (3023658000, 0),
   (3036963600, 3600), (3055712400, 0), (3068413200, 3600), (3087162000, 0), (3099862800, 3600),
   (3118611600, 0), (3131917200, 3600), (3150061200, 0), (3163366800, 3600), (3181510800, 0),
   (3194816400, 3600), (3212960400, 0), (3226266000, 3600), (3245014800, 0), (3257715600, 3600),
   (3276464400, 0), (3289165200, 3600), (3307914000, 0), (3321219600, 3600), (3339363600, 0),
   (3352669200, 3600), (3370813200, 0), (3384118800, 3600), (3402867600, 0), (3415568400, 3600),
   (3434317200, 0), (3447018000, 3600), (3465766800, 0), (3479072400, 3600), (3497216400, 0),
   (3510522000, 3600), (3528666000, 0), (3541971600, 3600), (3560115600, 0), (3573421200, 3600),
   (3592170000, 0), (3604870800, 3600), (3623619600, 0), (3636320400, 3600), (3655069200, 0),
   (3668374800, 3600), (3686518800, 0), (3699824400, 3600), (3717968400, 0), (3731274000, 3600),
   (3750022800, 0), (3762723600, 3600), (3781472400, 0), (3794173200, 3600), (3812922000, 0),
   (3825622800, 3600), (3844371600, 0), (3857677200, 3600), (3875821200, 0), (3889126800, 3600),
   (3907270800, 0), (3920576400, 3600), (3939325200, 0), (3952026000, 3600), (3970774800, 0),
   (3983475600, 3600), (4002224400, 0), (4015530000, 3600), (4033674000, 0), (4046979600, 3600),
   (4065123600, 0), (4078429200, 3600), (4096573200, 0)]

def offsetFrom (table : List (Int × Int)) (before t : Int) : Int :=
  table.foldl (fun offset change => if change.1 ≤ t then change.2 else offset) before

def offsetAt (t : Int) : Int :=
  offsetFrom transitions localMeanOffset t

end London

def Instant.toLondon (t : Instant) : WallClock :=
  t.utc.addSeconds (London.offsetAt t.epochSecond)

end HearingSync
