import Concord.Text.Runs

/-!
# Scripts

Every character belongs to one script, which has a code of four letters and a name. The code
`Zzzz` stands for code points of no script.
-/

namespace Concord.Text

/-- The scripts of all code points. -/
def scriptLines : List String := [
    "Zyyy65Latn26Zyyy6Latn26Zyyy47LatnZyyy15LatnZyyy5Latn23ZyyyLatn31ZyyyLatn449Zyyy39Latn5Zyyy5",
    "Bopo2Zyyy20Zinh112Grek4ZyyyGrek3Zzzz2Grek4ZyyyGrekZzzz4GrekZyyyGrekZyyyGrek3ZzzzGrekZzzz",
    "Grek20ZzzzGrek63Copt14Grek16Cyrl133Zinh2Cyrl169ZzzzArmn38Zzzz2Armn50Zzzz2Armn3ZzzzHebr55",
    "Zzzz8Hebr27Zzzz4Hebr6Zzzz11Arab5ZyyyArab6ZyyyArab14ZyyyArab3ZyyyArab32ZyyyArab10Zinh11Arab26",
    "ZinhArab108ZyyyArab34Syrc14ZzzzSyrc60Zzzz2Syrc3Arab48Thaa50Zzzz14Nkoo59Zzzz2Nkoo3Samr46Zzzz2",
    "Samr15ZzzzMand28Zzzz2MandZzzzSyrc11Zzzz5Arab31ZzzzArab2Zzzz5Arab75ZyyyArab29Deva81Zinh4",
    "Deva15Zyyy2Deva26Beng4ZzzzBeng8Zzzz2Beng2Zzzz2Beng22ZzzzBeng7ZzzzBengZzzz3Beng4Zzzz2Beng9",
    "Zzzz2Beng2Zzzz2Beng4Zzzz8BengZzzz4Beng2ZzzzBeng5Zzzz2Beng25Zzzz2Guru3ZzzzGuru6Zzzz4Guru2",
    "Zzzz2Guru22ZzzzGuru7ZzzzGuru2ZzzzGuru2ZzzzGuru2Zzzz2GuruZzzzGuru5Zzzz4Guru2Zzzz2Guru3Zzzz3",
    "GuruZzzz7Guru4ZzzzGuruZzzz7Guru17Zzzz10Gujr3ZzzzGujr9ZzzzGujr3ZzzzGujr22ZzzzGujr7ZzzzGujr2",
    "ZzzzGujr5Zzzz2Gujr10ZzzzGujr3ZzzzGujr3Zzzz2GujrZzzz15Gujr4Zzzz2Gujr12Zzzz7Gujr7ZzzzOrya3Zzzz",
    "Orya8Zzzz2Orya2Zzzz2Orya22ZzzzOrya7ZzzzOrya2ZzzzOrya5Zzzz2Orya9Zzzz2Orya2Zzzz2Orya3Zzzz7",
    "Orya3Zzzz4Orya2ZzzzOrya5Zzzz2Orya18Zzzz10Taml2ZzzzTaml6Zzzz3Taml3ZzzzTaml4Zzzz3Taml2ZzzzTaml",
    "ZzzzTaml2Zzzz3Taml2Zzzz3Taml3Zzzz3Taml12Zzzz4Taml5Zzzz3Taml3ZzzzTaml4Zzzz2TamlZzzz6Taml",
    "Zzzz14Taml21Zzzz5Telu13ZzzzTelu3ZzzzTelu23ZzzzTelu16Zzzz2Telu9ZzzzTelu3ZzzzTelu4Zzzz7Telu2",
    "ZzzzTelu3Zzzz2TeluZzzz2Telu4Zzzz2Telu10Zzzz7Telu9Knda13ZzzzKnda3ZzzzKnda23ZzzzKnda10Zzzz",
    "Knda5Zzzz2Knda9ZzzzKnda3ZzzzKnda4Zzzz7Knda2Zzzz6Knda2ZzzzKnda4Zzzz2Knda10ZzzzKnda3Zzzz12",
    "Mlym13ZzzzMlym3ZzzzMlym51ZzzzMlym3ZzzzMlym6Zzzz4Mlym16Zzzz2Mlym26ZzzzSinh3ZzzzSinh18Zzzz3",
    "Sinh24ZzzzSinh9ZzzzSinhZzzz2Sinh7Zzzz3SinhZzzz4Sinh6ZzzzSinhZzzzSinh8Zzzz6Sinh10Zzzz2Sinh3",
    "Zzzz12Thai58Zzzz4ZyyyThai28Zzzz37Laoo2ZzzzLaooZzzzLaoo5ZzzzLaoo24ZzzzLaooZzzzLaoo23Zzzz2",
    "Laoo5ZzzzLaooZzzzLaoo7ZzzzLaoo10Zzzz2Laoo4Zzzz32Tibt72ZzzzTibt36Zzzz4Tibt39ZzzzTibt36Zzzz",
    "Tibt15ZzzzTibt7Zyyy4Tibt2Zzzz37Mymr160Geor38ZzzzGeorZzzz5GeorZzzz2Geor43ZyyyGeor4Hang256",
    "Ethi73ZzzzEthi4Zzzz2Ethi7ZzzzEthiZzzzEthi4Zzzz2Ethi41ZzzzEthi4Zzzz2Ethi33ZzzzEthi4Zzzz2Ethi7",
    "ZzzzEthiZzzzEthi4Zzzz2Ethi15ZzzzEthi57ZzzzEthi4Zzzz2Ethi67Zzzz2Ethi32Zzzz3Ethi26Zzzz6Cher86",
    "Zzzz2Cher6Zzzz2Cans640Ogam29Zzzz3Runr75Zyyy3Runr11Zzzz7Tglg22Zzzz9TglgHano21Zyyy2Zzzz9Buhd20",
    "Zzzz12Tagb13ZzzzTagb3ZzzzTagb2Zzzz12Khmr94Zzzz2Khmr10Zzzz6Khmr10Zzzz6Mong2Zyyy2MongZyyy",
    "Mong20Zzzz6Mong89Zzzz7Mong43Zzzz5Cans70Zzzz10Limb31ZzzzLimb12Zzzz4Limb12Zzzz4LimbZzzz3Limb12",
    "Tale30Zzzz2Tale5Zzzz11Talu44Zzzz4Talu26Zzzz6Talu11Zzzz3Talu2Khmr32Bugi28Zzzz2Bugi2Lana63Zzzz",
    "Lana29Zzzz2Lana11Zzzz6Lana10Zzzz6Lana14Zzzz2Zinh31Zzzz49Bali77ZzzzBali50Sund64Batk52Zzzz8",
    "Batk4Lepc56Zzzz3Lepc15Zzzz3Lepc3Olck48Cyrl11Zzzz5Geor43Zzzz2Geor3Sund8Zzzz8Zinh3ZyyyZinh13",
    "ZyyyZinh7Zyyy4ZinhZyyy6ZinhZyyy3Zinh2ZyyyZzzz5Latn38Grek5CyrlLatn49Grek5Latn4Grek5Latn13Cyrl",
    "Latn70GrekZinh64Latn256Grek22Zzzz2Grek6Zzzz2Grek38Zzzz2Grek6Zzzz2Grek8ZzzzGrekZzzzGrekZzzz",
    "GrekZzzzGrek31Zzzz2Grek53ZzzzGrek15ZzzzGrek14Zzzz2Grek6ZzzzGrek19Zzzz2Grek3ZzzzGrek9Zzzz",
    "Zyyy12Zinh2Zyyy87ZzzzZyyy11LatnZzzz2Zyyy11LatnZyyy15ZzzzLatn13Zzzz3Zyyy33Zzzz15Zinh33Zzzz15",
    "Zyyy38GrekZyyy3Latn2Zyyy6LatnZyyy27LatnZyyy17Latn41Zyyy3Zzzz4Zyyy666Zzzz22Zyyy11Zzzz21",
    "Zyyy928Brai256Zyyy628Zzzz2Zyyy32ZzzzZyyy105Glag96Latn32Copt116Zzzz5Copt7Geor38ZzzzGeorZzzz5",
    "GeorZzzz2Tfng56Zzzz7Tfng2Zzzz14TfngEthi23Zzzz9Ethi7ZzzzEthi7ZzzzEthi7ZzzzEthi7ZzzzEthi7Zzzz",
    "Ethi7ZzzzEthi7ZzzzEthi7ZzzzCyrl32Zyyy94Zzzz34Hani26ZzzzHani89Zzzz12Hani214Zzzz26Zyyy21Hani",
    "ZyyyHaniZyyy25Hani9Zinh4Hang2Zyyy8Hani4Zyyy4ZzzzHira86Zzzz2Zinh2Zyyy2Hira3ZyyyKana90Zyyy2",
    "Kana3Zzzz5Bopo43ZzzzHang94ZzzzZyyy16Bopo32Zyyy38Zzzz9ZyyyKana16Hang31ZzzzZyyy64Hang31Zyyy81",
    "Kana47ZyyyKana88Zyyy168Hani6592Zyyy64Hani20992Yiii1165Zzzz3Yiii55Zzzz9Lisu48Vaii300Zzzz20",
    "Cyrl96Bamu88Zzzz8Zyyy34Latn102Zyyy3Latn67Zzzz2Latn2ZzzzLatnZzzzLatn8Zzzz21Latn14Sylo45Zzzz3",
    "Zyyy10Zzzz6Phag56Zzzz8Saur70Zzzz8Saur12Zzzz6Deva32Kali46ZyyyKaliRjng36Zzzz11RjngHang29Zzzz3",
    "Java78ZzzzZyyyJava10Zzzz4Java2Mymr31ZzzzCham55Zzzz9Cham14Zzzz2Cham10Zzzz2Cham4Mymr32Tavt67",
    "Zzzz24Tavt5Mtei23Zzzz10Ethi6Zzzz2Ethi6Zzzz2Ethi6Zzzz9Ethi7ZzzzEthi7ZzzzLatn43ZyyyLatn9Grek",
    "Latn4Zyyy2Zzzz4Cher80Mtei46Zzzz2Mtei10Zzzz6Hang11172Zzzz12Hang23Zzzz4Hang49Zzzz8452Hani366",
    "Zzzz2Hani106Zzzz38Latn7Zzzz12Armn5Zzzz5Hebr26ZzzzHebr5ZzzzHebrZzzzHebr2ZzzzHebr2ZzzzHebr10",
    "Arab115Zzzz16Arab363Zyyy2Arab80Zzzz2Arab54Zzzz7ArabZzzz32Arab16Zinh16Zyyy10Zzzz6Zinh14Cyrl2",
    "Zyyy35ZzzzZyyy19ZzzzZyyy4Zzzz4Arab5ZzzzArab135Zzzz2ZyyyZzzzZyyy32Latn26Zyyy6Latn26Zyyy11",
    "Kana10ZyyyKana45Zyyy2Hang31Zzzz3Hang6Zzzz2Hang6Zzzz2Hang6Zzzz2Hang3Zzzz3Zyyy7ZzzzZyyy7Zzzz10",
    "Zyyy5Zzzz2Linb12ZzzzLinb26ZzzzLinb19ZzzzLinb2ZzzzLinb15Zzzz2Linb14Zzzz34Linb123Zzzz5Zyyy3",
    "Zzzz4Zyyy45Zzzz3Zyyy9Grek79ZzzzZyyy13Zzzz3GrekZzzz47Zyyy45ZinhZzzz130Lyci29Zzzz3Cari49Zzzz15",
    "ZinhZyyy27Zzzz4Ital36Zzzz9Ital3Goth27Zzzz5Perm43Zzzz5Ugar30ZzzzUgarXpeo36Zzzz4Xpeo14Zzzz42",
    "Dsrt80Shaw48Osma30Zzzz2Osma10Zzzz6Osge36Zzzz4Osge36Zzzz4Elba40Zzzz8Aghb52Zzzz11AghbVith11",
    "ZzzzVith15ZzzzVith7ZzzzVith2ZzzzVith11ZzzzVith15ZzzzVith7ZzzzVith2Zzzz3Todr52Zzzz12Lina311",
    "Zzzz9Lina22Zzzz10Lina8Zzzz24Latn6ZzzzLatn42ZzzzLatn9Zzzz69Cprt6Zzzz2CprtZzzzCprt44ZzzzCprt2",
    "Zzzz3CprtZzzz2CprtArmi22ZzzzArmi9Palm32Nbat31Zzzz8Nbat9Zzzz48Hatr19ZzzzHatr2Zzzz5Hatr5Phnx28",
    "Zzzz3PhnxLydi26Zzzz5LydiZzzz64Mero32Merc24Zzzz4Merc20Zzzz2Merc46Khar4ZzzzKhar2Zzzz5Khar8Zzzz",
    "Khar3ZzzzKhar29Zzzz2Khar3Zzzz4Khar10Zzzz7Khar9Zzzz7Sarb32Narb32Zzzz32Mani39Zzzz4Mani12Zzzz9",
    "Avst54Zzzz3Avst7Prti22Zzzz2Prti8Phli19Zzzz5Phli8Phlp18Zzzz7Phlp4Zzzz12Phlp7Zzzz80Orkh73",
    "Zzzz55Hung51Zzzz13Hung51Zzzz7Hung6Rohg40Zzzz8Rohg10Zzzz6Gara38Zzzz3Gara29Zzzz8Gara2Zzzz208",
    "Arab31ZzzzYezi42ZzzzYezi3Zzzz2Yezi2Zzzz16Arab3Zzzz55Arab4Sogo40Zzzz8Sogd42Zzzz22Ougr26Zzzz38",
    "Chrs28Zzzz20Elym23Zzzz9Brah78Zzzz4Brah36Zzzz9BrahKthi67Zzzz10KthiZzzz2Sora25Zzzz7Sora10Zzzz6",
    "Cakm53ZzzzCakm18Zzzz8Mahj39Zzzz9Shrd96ZzzzSinh20Zzzz11Khoj18ZzzzKhoj47Zzzz62Mult7ZzzzMult",
    "ZzzzMult4ZzzzMult15ZzzzMult11Zzzz6Sind59Zzzz5Sind10Zzzz6Gran4ZzzzGran8Zzzz2Gran2Zzzz2Gran22",
    "ZzzzGran7ZzzzGran2ZzzzGran5ZzzzZinhGran9Zzzz2Gran2Zzzz2Gran3Zzzz2GranZzzz6GranZzzz5Gran7",
    "Zzzz2Gran7Zzzz3Gran5Zzzz11Tutg10ZzzzTutgZzzz2TutgZzzzTutg38ZzzzTutg10ZzzzTutgZzzz2TutgZzzz",
    "Tutg4ZzzzTutg10ZzzzTutg2Zzzz8Tutg2Zzzz29Newa92ZzzzNewa5Zzzz30Tirh72Zzzz8Tirh10Zzzz166Sidd54",
    "Zzzz2Sidd38Zzzz34Modi69Zzzz11Modi10Zzzz6Mong13Zzzz19Takr58Zzzz6Takr10Zzzz6Mymr20Zzzz28Ahom27",
    "Zzzz2Ahom15Zzzz4Ahom23Zzzz185Dogr60Zzzz100Wara83Zzzz12WaraDiak7Zzzz2DiakZzzz2Diak8ZzzzDiak2",
    "ZzzzDiak30ZzzzDiak2Zzzz2Diak12Zzzz9Diak10Zzzz70Nand8Zzzz2Nand46Zzzz2Nand11Zzzz27Zanb72Zzzz8",
    "Soyo83Zzzz13Cans16Pauc57Zzzz7Deva10Zzzz182Sunu34Zzzz14Sunu10Zzzz6Bhks9ZzzzBhks45ZzzzBhks14",
    "Zzzz10Bhks29Zzzz3Marc32Zzzz2Marc22ZzzzMarc14Zzzz73Gonm7ZzzzGonm2ZzzzGonm44Zzzz3GonmZzzzGonm2",
    "ZzzzGonm9Zzzz8Gonm10Zzzz6Gong6ZzzzGong2ZzzzGong37ZzzzGong2ZzzzGong6Zzzz7Gong10Zzzz310Maka25",
    "Zzzz7Kawi17ZzzzKawi41Zzzz3Kawi29Zzzz85LisuZzzz15Taml50Zzzz13TamlXsux922Zzzz102Xsux111Zzzz",
    "Xsux5Zzzz11Xsux196Zzzz2636Cpmn99Zzzz13Egyp1110Zzzz10Egyp3995Zzzz5Hluw583Zzzz6841Gukh58",
    "Zzzz1734Bamu569Zzzz7Mroo31ZzzzMroo10Zzzz4Mroo2Tnsa79ZzzzTnsa10Zzzz6Bass30Zzzz2Bass6Zzzz10",
    "Hmng70Zzzz10Hmng10ZzzzHmng7ZzzzHmng21Zzzz5Hmng19Zzzz432Krai58Zzzz198Medf91Zzzz101Plrd75Zzzz4",
    "Plrd57Zzzz7Plrd17Zzzz64TangNshuHani2KitsZzzz11Hani2Zzzz14Tang6136Zzzz8Tang768Kits470Zzzz41",
    "KitsTang9Zzzz8935Kana4ZzzzKana7ZzzzKana2ZzzzKanaHira287Kana3Zzzz15HiraZzzz29Hira3Zzzz2Kana",
    "Zzzz14Kana4Zzzz8Nshu396Zzzz2308Dupl107Zzzz5Dupl13Zzzz3Dupl9Zzzz7Dupl10Zzzz2Dupl4Zyyy4",
    "Zzzz3932Zyyy250Zzzz6Zyyy436Zzzz76Zinh46Zzzz2Zinh23Zzzz9Zyyy116Zzzz60Zyyy246Zzzz10Zyyy39Zzzz2",
    "Zyyy62Zinh3Zyyy17Zinh8Zyyy2Zinh7Zyyy30Zinh4Zyyy61Zzzz21Grek70Zzzz122Zyyy20Zzzz12Zyyy20Zzzz12",
    "Zyyy87Zzzz9Zyyy25Zzzz135Zyyy85ZzzzZyyy71ZzzzZyyy2Zzzz2ZyyyZzzz2Zyyy2Zzzz2Zyyy4ZzzzZyyy12Zzzz",
    "ZyyyZzzzZyyy7ZzzzZyyy65ZzzzZyyy4Zzzz2Zyyy8ZzzzZyyy7ZzzzZyyy28ZzzzZyyy4ZzzzZyyy5ZzzzZyyyZzzz3",
    "Zyyy7ZzzzZyyy340Zzzz2Zyyy292Zzzz2Zyyy50Sgnw652Zzzz15Sgnw5ZzzzSgnw15Zzzz1104Latn31Zzzz6Latn6",
    "Zzzz213Glag7ZzzzGlag17Zzzz2Glag7ZzzzGlag2ZzzzGlag5Zzzz5Cyrl62Zzzz33CyrlZzzz112Hmnp45Zzzz3",
    "Hmnp14Zzzz2Hmnp10Zzzz4Hmnp2Zzzz320Toto31Zzzz17Wcho58Zzzz5WchoZzzz464Nagm42Zzzz214Onao43Zzzz4",
    "OnaoZzzz480Ethi7ZzzzEthi4ZzzzEthi2ZzzzEthi15ZzzzMend197Zzzz2Mend16Zzzz41Adlm76Zzzz4Adlm10",
    "Zzzz4Adlm2Zzzz785Zyyy68Zzzz76Zyyy61Zzzz194Arab4ZzzzArab27ZzzzArab2ZzzzArabZzzz2ArabZzzz",
    "Arab10ZzzzArab4ZzzzArabZzzzArabZzzz6ArabZzzz4ArabZzzzArabZzzzArabZzzzArab3ZzzzArab2ZzzzArab",
    "Zzzz2ArabZzzzArabZzzzArabZzzzArabZzzzArabZzzzArab2ZzzzArabZzzz2Arab4ZzzzArab7ZzzzArab4Zzzz",
    "Arab4ZzzzArabZzzzArab10ZzzzArab17Zzzz5Arab3ZzzzArab5ZzzzArab17Zzzz52Arab2Zzzz270Zyyy44Zzzz4",
    "Zyyy100Zzzz12Zyyy15Zzzz2Zyyy15ZzzzZyyy15ZzzzZyyy37Zzzz10Zyyy174Zzzz56Zyyy26HiraZyyy2Zzzz13",
    "Zyyy44Zzzz4Zyyy9Zzzz7Zyyy2Zzzz14Zyyy6Zzzz154Zyyy984Zzzz4Zyyy17Zzzz3Zyyy13Zzzz3Zyyy119Zzzz4",
    "Zyyy95Zzzz6Zyyy12Zzzz4ZyyyZzzz15Zyyy12Zzzz4Zyyy56Zzzz8Zyyy10Zzzz6Zyyy40Zzzz8Zyyy30Zzzz2",
    "Zyyy12Zzzz4Zyyy2Zzzz62Zyyy340Zzzz12Zyyy14Zzzz2Zyyy13Zzzz3Zyyy10Zzzz5Zyyy56Zzzz7Zyyy15Zzzz2",
    "Zyyy11Zzzz6Zyyy9Zzzz7Zyyy147ZzzzZyyy102Zzzz1030Hani42720Zzzz32Hani4154Zzzz6Hani222Zzzz2",
    "Hani5762Zzzz14Hani7473Zzzz15Hani622Zzzz2466Hani542Zzzz1506Hani4939Zzzz5Hani4192Zzzz711761",
    "ZyyyZzzz30Zyyy96Zzzz128Zinh240Zzzz196112"]

/-- The scripts of all code points, as runs. -/
def scriptRuns : Runs := Runs.ofLines scriptLines

/-- The codes of scripts and what each of them is called. -/
def scriptNames : List (String × List String) := [
  ("Adlm", ["adlm", "adlam"]), ("Ahom", ["ahom"]), ("Hluw", ["hluw", "anatolianhieroglyphs"]),
  ("Arab", ["arab", "arabic"]), ("Armn", ["armn", "armenian"]), ("Avst", ["avst", "avestan"]),
  ("Bali", ["bali", "balinese"]), ("Bamu", ["bamu", "bamum"]), ("Bass", ["bass", "bassavah"]),
  ("Batk", ["batk", "batak"]), ("Beng", ["beng", "bengali"]), ("Bhks", ["bhks", "bhaiksuki"]),
  ("Bopo", ["bopo", "bopomofo"]), ("Brah", ["brah", "brahmi"]), ("Brai", ["brai", "braille"]),
  ("Bugi", ["bugi", "buginese"]), ("Buhd", ["buhd", "buhid"]),
  ("Cans", ["cans", "canadianaboriginal"]), ("Cari", ["cari", "carian"]),
  ("Aghb", ["aghb", "caucasianalbanian"]), ("Cakm", ["cakm", "chakma"]), ("Cham", ["cham"]),
  ("Cher", ["cher", "cherokee"]), ("Chrs", ["chrs", "chorasmian"]), ("Zyyy", ["zyyy", "common"]),
  ("Copt", ["copt", "coptic", "qaac"]), ("Xsux", ["xsux", "cuneiform"]),
  ("Cprt", ["cprt", "cypriot"]), ("Cpmn", ["cpmn", "cyprominoan"]), ("Cyrl", ["cyrl", "cyrillic"]),
  ("Dsrt", ["dsrt", "deseret"]), ("Deva", ["deva", "devanagari"]), ("Diak", ["diak", "divesakuru"]),
  ("Dogr", ["dogr", "dogra"]), ("Dupl", ["dupl", "duployan"]),
  ("Egyp", ["egyp", "egyptianhieroglyphs"]), ("Elba", ["elba", "elbasan"]),
  ("Elym", ["elym", "elymaic"]), ("Ethi", ["ethi", "ethiopic"]), ("Gara", ["gara", "garay"]),
  ("Geor", ["geor", "georgian"]), ("Glag", ["glag", "glagolitic"]), ("Goth", ["goth", "gothic"]),
  ("Gran", ["gran", "grantha"]), ("Grek", ["grek", "greek"]), ("Gujr", ["gujr", "gujarati"]),
  ("Gong", ["gong", "gunjalagondi"]), ("Guru", ["guru", "gurmukhi"]),
  ("Gukh", ["gukh", "gurungkhema"]), ("Hani", ["hani", "han"]), ("Hang", ["hang", "hangul"]),
  ("Rohg", ["rohg", "hanifirohingya"]), ("Hano", ["hano", "hanunoo"]), ("Hatr", ["hatr", "hatran"]),
  ("Hebr", ["hebr", "hebrew"]), ("Hira", ["hira", "hiragana"]),
  ("Armi", ["armi", "imperialaramaic"]), ("Zinh", ["zinh", "inherited", "qaai"]),
  ("Phli", ["phli", "inscriptionalpahlavi"]), ("Prti", ["prti", "inscriptionalparthian"]),
  ("Java", ["java", "javanese"]), ("Kthi", ["kthi", "kaithi"]), ("Knda", ["knda", "kannada"]),
  ("Kana", ["kana", "katakana"]), ("Kawi", ["kawi"]), ("Kali", ["kali", "kayahli"]),
  ("Khar", ["khar", "kharoshthi"]), ("Kits", ["kits", "khitansmallscript"]),
  ("Khmr", ["khmr", "khmer"]), ("Khoj", ["khoj", "khojki"]), ("Sind", ["sind", "khudawadi"]),
  ("Krai", ["krai", "kiratrai"]), ("Laoo", ["laoo", "lao"]), ("Latn", ["latn", "latin"]),
  ("Lepc", ["lepc", "lepcha"]), ("Limb", ["limb", "limbu"]), ("Lina", ["lina", "lineara"]),
  ("Linb", ["linb", "linearb"]), ("Lisu", ["lisu"]), ("Lyci", ["lyci", "lycian"]),
  ("Lydi", ["lydi", "lydian"]), ("Mahj", ["mahj", "mahajani"]), ("Maka", ["maka", "makasar"]),
  ("Mlym", ["mlym", "malayalam"]), ("Mand", ["mand", "mandaic"]), ("Mani", ["mani", "manichaean"]),
  ("Marc", ["marc", "marchen"]), ("Gonm", ["gonm", "masaramgondi"]),
  ("Medf", ["medf", "medefaidrin"]), ("Mtei", ["mtei", "meeteimayek"]),
  ("Mend", ["mend", "mendekikakui"]), ("Merc", ["merc", "meroiticcursive"]),
  ("Mero", ["mero", "meroitichieroglyphs"]), ("Plrd", ["plrd", "miao"]), ("Modi", ["modi"]),
  ("Mong", ["mong", "mongolian"]), ("Mroo", ["mroo", "mro"]), ("Mult", ["mult", "multani"]),
  ("Mymr", ["mymr", "myanmar"]), ("Nbat", ["nbat", "nabataean"]), ("Nagm", ["nagm", "nagmundari"]),
  ("Nand", ["nand", "nandinagari"]), ("Talu", ["talu", "newtailue"]), ("Newa", ["newa"]),
  ("Nkoo", ["nkoo", "nko"]), ("Nshu", ["nshu", "nushu"]),
  ("Hmnp", ["hmnp", "nyiakengpuachuehmong"]), ("Ogam", ["ogam", "ogham"]),
  ("Olck", ["olck", "olchiki"]), ("Onao", ["onao", "olonal"]), ("Hung", ["hung", "oldhungarian"]),
  ("Ital", ["ital", "olditalic"]), ("Narb", ["narb", "oldnortharabian"]),
  ("Perm", ["perm", "oldpermic"]), ("Xpeo", ["xpeo", "oldpersian"]),
  ("Sogo", ["sogo", "oldsogdian"]), ("Sarb", ["sarb", "oldsoutharabian"]),
  ("Orkh", ["orkh", "oldturkic"]), ("Ougr", ["ougr", "olduyghur"]), ("Orya", ["orya", "oriya"]),
  ("Osge", ["osge", "osage"]), ("Osma", ["osma", "osmanya"]), ("Hmng", ["hmng", "pahawhhmong"]),
  ("Palm", ["palm", "palmyrene"]), ("Pauc", ["pauc", "paucinhau"]), ("Phag", ["phag", "phagspa"]),
  ("Phnx", ["phnx", "phoenician"]), ("Phlp", ["phlp", "psalterpahlavi"]),
  ("Rjng", ["rjng", "rejang"]), ("Runr", ["runr", "runic"]), ("Samr", ["samr", "samaritan"]),
  ("Saur", ["saur", "saurashtra"]), ("Shrd", ["shrd", "sharada"]), ("Shaw", ["shaw", "shavian"]),
  ("Sidd", ["sidd", "siddham"]), ("Sgnw", ["sgnw", "signwriting"]), ("Sinh", ["sinh", "sinhala"]),
  ("Sogd", ["sogd", "sogdian"]), ("Sora", ["sora", "sorasompeng"]), ("Soyo", ["soyo", "soyombo"]),
  ("Sund", ["sund", "sundanese"]), ("Sunu", ["sunu", "sunuwar"]), ("Sylo", ["sylo", "sylotinagri"]),
  ("Syrc", ["syrc", "syriac"]), ("Tglg", ["tglg", "tagalog"]), ("Tagb", ["tagb", "tagbanwa"]),
  ("Tale", ["tale", "taile"]), ("Lana", ["lana", "taitham"]), ("Tavt", ["tavt", "taiviet"]),
  ("Takr", ["takr", "takri"]), ("Taml", ["taml", "tamil"]), ("Tnsa", ["tnsa", "tangsa"]),
  ("Tang", ["tang", "tangut"]), ("Telu", ["telu", "telugu"]), ("Thaa", ["thaa", "thaana"]),
  ("Thai", ["thai"]), ("Tibt", ["tibt", "tibetan"]), ("Tfng", ["tfng", "tifinagh"]),
  ("Tirh", ["tirh", "tirhuta"]), ("Todr", ["todr", "todhri"]), ("Toto", ["toto"]),
  ("Tutg", ["tutg", "tulutigalari"]), ("Ugar", ["ugar", "ugaritic"]), ("Vaii", ["vaii", "vai"]),
  ("Vith", ["vith", "vithkuqi"]), ("Wcho", ["wcho", "wancho"]), ("Wara", ["wara", "warangciti"]),
  ("Yezi", ["yezi", "yezidi"]), ("Yiii", ["yiii", "yi"]), ("Zanb", ["zanb", "zanabazarsquare"])]

/-- The characters of the script of a name. -/
def scriptNamed? (name : String) : Option Ranges :=
  (scriptNames.find? (·.2.contains name)).map fun (code, _) =>
    scriptRuns.ranges (· = code.toList)

end Concord.Text
