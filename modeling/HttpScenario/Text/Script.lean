import HttpScenario.Text.CharSet

/-! The script of every code point, by runs, and the characters that several scripts share. Scripts
go by their codes of four letters. -/

namespace HttpScenario.Text.Script

def names : List (String × String) := entriesOf <| String.join
  ["adlm:adlam aghb:caucasianalbanian ahom:ahom arab:arabic armi:imperialaramaic armn:armenian ",
   "avst:avestan bali:balinese bamu:bamum bass:bassavah batk:batak beng:bengali bhks:bhaiksuki ",
   "bopo:bopomofo brah:brahmi brai:braille bugi:buginese buhd:buhid cakm:chakma ",
   "cans:canadianaboriginal cari:carian cham:cham cher:cherokee chrs:chorasmian copt:coptic.qaac ",
   "cpmn:cyprominoan cprt:cypriot cyrl:cyrillic deva:devanagari diak:divesakuru dogr:dogra ",
   "dsrt:deseret dupl:duployan egyp:egyptianhieroglyphs elba:elbasan elym:elymaic ethi:ethiopic ",
   "gara:garay geor:georgian glag:glagolitic gong:gunjalagondi gonm:masaramgondi goth:gothic ",
   "gran:grantha grek:greek gujr:gujarati gukh:gurungkhema guru:gurmukhi hang:hangul hani:han ",
   "hano:hanunoo hatr:hatran hebr:hebrew hira:hiragana hluw:anatolianhieroglyphs hmng:pahawhhmong ",
   "hmnp:nyiakengpuachuehmong hung:oldhungarian ital:olditalic java:javanese kali:kayahli ",
   "kana:katakana kawi:kawi khar:kharoshthi khmr:khmer khoj:khojki kits:khitansmallscript ",
   "knda:kannada krai:kiratrai kthi:kaithi lana:taitham laoo:lao latn:latin lepc:lepcha ",
   "limb:limbu lina:lineara linb:linearb lisu:lisu lyci:lycian lydi:lydian mahj:mahajani ",
   "maka:makasar mand:mandaic mani:manichaean marc:marchen medf:medefaidrin mend:mendekikakui ",
   "merc:meroiticcursive mero:meroitichieroglyphs mlym:malayalam modi:modi mong:mongolian ",
   "mroo:mro mtei:meeteimayek mult:multani mymr:myanmar nagm:nagmundari nand:nandinagari ",
   "narb:oldnortharabian nbat:nabataean newa:newa nkoo:nko nshu:nushu ogam:ogham olck:olchiki ",
   "onao:olonal orkh:oldturkic orya:oriya osge:osage osma:osmanya ougr:olduyghur palm:palmyrene ",
   "pauc:paucinhau perm:oldpermic phag:phagspa phli:inscriptionalpahlavi phlp:psalterpahlavi ",
   "phnx:phoenician plrd:miao prti:inscriptionalparthian rjng:rejang rohg:hanifirohingya ",
   "runr:runic samr:samaritan sarb:oldsoutharabian saur:saurashtra sgnw:signwriting shaw:shavian ",
   "shrd:sharada sidd:siddham sind:khudawadi sinh:sinhala sogd:sogdian sogo:oldsogdian ",
   "sora:sorasompeng soyo:soyombo sund:sundanese sunu:sunuwar sylo:sylotinagri syrc:syriac ",
   "tagb:tagbanwa takr:takri tale:taile talu:newtailue taml:tamil tang:tangut tavt:taiviet ",
   "telu:telugu tfng:tifinagh tglg:tagalog thaa:thaana thai:thai tibt:tibetan tirh:tirhuta ",
   "tnsa:tangsa todr:todhri toto:toto tutg:tulutigalari ugar:ugaritic vaii:vai vith:vithkuqi ",
   "wara:warangciti wcho:wancho xpeo:oldpersian xsux:cuneiform yezi:yezidi yiii:yi ",
   "zanb:zanabazarsquare zinh:inherited.qaai zyyy:common"]

def table : Runs String := .ofLines (String.map Char.toLower)
  ["Zyyy65Latn26Zyyy6Latn26Zyyy47LatnZyyy15LatnZyyy5Latn23ZyyyLatn31ZyyyLatn449Zyyy39Latn5Zyyy5Bop",
   "o2Zyyy20Zinh112Grek4ZyyyGrek3Zzzz2Grek4ZyyyGrekZzzz4GrekZyyyGrekZyyyGrek3ZzzzGrekZzzzGrek20Zzz",
   "zGrek63Copt14Grek16Cyrl133Zinh2Cyrl169ZzzzArmn38Zzzz2Armn50Zzzz2Armn3ZzzzHebr55Zzzz8Hebr27Zzzz",
   "4Hebr6Zzzz11Arab5ZyyyArab6ZyyyArab14ZyyyArab3ZyyyArab32ZyyyArab10Zinh11Arab26ZinhArab108ZyyyAr",
   "ab34Syrc14ZzzzSyrc60Zzzz2Syrc3Arab48Thaa50Zzzz14Nkoo59Zzzz2Nkoo3Samr46Zzzz2Samr15ZzzzMand28Zzz",
   "z2MandZzzzSyrc11Zzzz5Arab31ZzzzArab2Zzzz5Arab75ZyyyArab29Deva81Zinh4Deva15Zyyy2Deva26Beng4Zzzz",
   "Beng8Zzzz2Beng2Zzzz2Beng22ZzzzBeng7ZzzzBengZzzz3Beng4Zzzz2Beng9Zzzz2Beng2Zzzz2Beng4Zzzz8BengZz",
   "zz4Beng2ZzzzBeng5Zzzz2Beng25Zzzz2Guru3ZzzzGuru6Zzzz4Guru2Zzzz2Guru22ZzzzGuru7ZzzzGuru2ZzzzGuru",
   "2ZzzzGuru2Zzzz2GuruZzzzGuru5Zzzz4Guru2Zzzz2Guru3Zzzz3GuruZzzz7Guru4ZzzzGuruZzzz7Guru17Zzzz10Gu",
   "jr3ZzzzGujr9ZzzzGujr3ZzzzGujr22ZzzzGujr7ZzzzGujr2ZzzzGujr5Zzzz2Gujr10ZzzzGujr3ZzzzGujr3Zzzz2Gu",
   "jrZzzz15Gujr4Zzzz2Gujr12Zzzz7Gujr7ZzzzOrya3ZzzzOrya8Zzzz2Orya2Zzzz2Orya22ZzzzOrya7ZzzzOrya2Zzz",
   "zOrya5Zzzz2Orya9Zzzz2Orya2Zzzz2Orya3Zzzz7Orya3Zzzz4Orya2ZzzzOrya5Zzzz2Orya18Zzzz10Taml2ZzzzTam",
   "l6Zzzz3Taml3ZzzzTaml4Zzzz3Taml2ZzzzTamlZzzzTaml2Zzzz3Taml2Zzzz3Taml3Zzzz3Taml12Zzzz4Taml5Zzzz3",
   "Taml3ZzzzTaml4Zzzz2TamlZzzz6TamlZzzz14Taml21Zzzz5Telu13ZzzzTelu3ZzzzTelu23ZzzzTelu16Zzzz2Telu9",
   "ZzzzTelu3ZzzzTelu4Zzzz7Telu2ZzzzTelu3Zzzz2TeluZzzz2Telu4Zzzz2Telu10Zzzz7Telu9Knda13ZzzzKnda3Zz",
   "zzKnda23ZzzzKnda10ZzzzKnda5Zzzz2Knda9ZzzzKnda3ZzzzKnda4Zzzz7Knda2Zzzz6Knda2ZzzzKnda4Zzzz2Knda1",
   "0ZzzzKnda3Zzzz12Mlym13ZzzzMlym3ZzzzMlym51ZzzzMlym3ZzzzMlym6Zzzz4Mlym16Zzzz2Mlym26ZzzzSinh3Zzzz",
   "Sinh18Zzzz3Sinh24ZzzzSinh9ZzzzSinhZzzz2Sinh7Zzzz3SinhZzzz4Sinh6ZzzzSinhZzzzSinh8Zzzz6Sinh10Zzz",
   "z2Sinh3Zzzz12Thai58Zzzz4ZyyyThai28Zzzz37Laoo2ZzzzLaooZzzzLaoo5ZzzzLaoo24ZzzzLaooZzzzLaoo23Zzzz",
   "2Laoo5ZzzzLaooZzzzLaoo7ZzzzLaoo10Zzzz2Laoo4Zzzz32Tibt72ZzzzTibt36Zzzz4Tibt39ZzzzTibt36ZzzzTibt",
   "15ZzzzTibt7Zyyy4Tibt2Zzzz37Mymr160Geor38ZzzzGeorZzzz5GeorZzzz2Geor43ZyyyGeor4Hang256Ethi73Zzzz",
   "Ethi4Zzzz2Ethi7ZzzzEthiZzzzEthi4Zzzz2Ethi41ZzzzEthi4Zzzz2Ethi33ZzzzEthi4Zzzz2Ethi7ZzzzEthiZzzz",
   "Ethi4Zzzz2Ethi15ZzzzEthi57ZzzzEthi4Zzzz2Ethi67Zzzz2Ethi32Zzzz3Ethi26Zzzz6Cher86Zzzz2Cher6Zzzz2",
   "Cans640Ogam29Zzzz3Runr75Zyyy3Runr11Zzzz7Tglg22Zzzz9TglgHano21Zyyy2Zzzz9Buhd20Zzzz12Tagb13ZzzzT",
   "agb3ZzzzTagb2Zzzz12Khmr94Zzzz2Khmr10Zzzz6Khmr10Zzzz6Mong2Zyyy2MongZyyyMong20Zzzz6Mong89Zzzz7Mo",
   "ng43Zzzz5Cans70Zzzz10Limb31ZzzzLimb12Zzzz4Limb12Zzzz4LimbZzzz3Limb12Tale30Zzzz2Tale5Zzzz11Talu",
   "44Zzzz4Talu26Zzzz6Talu11Zzzz3Talu2Khmr32Bugi28Zzzz2Bugi2Lana63ZzzzLana29Zzzz2Lana11Zzzz6Lana10",
   "Zzzz6Lana14Zzzz2Zinh31Zzzz49Bali77ZzzzBali50Sund64Batk52Zzzz8Batk4Lepc56Zzzz3Lepc15Zzzz3Lepc3O",
   "lck48Cyrl11Zzzz5Geor43Zzzz2Geor3Sund8Zzzz8Zinh3ZyyyZinh13ZyyyZinh7Zyyy4ZinhZyyy6ZinhZyyy3Zinh2",
   "ZyyyZzzz5Latn38Grek5CyrlLatn49Grek5Latn4Grek5Latn13CyrlLatn70GrekZinh64Latn256Grek22Zzzz2Grek6",
   "Zzzz2Grek38Zzzz2Grek6Zzzz2Grek8ZzzzGrekZzzzGrekZzzzGrekZzzzGrek31Zzzz2Grek53ZzzzGrek15ZzzzGrek",
   "14Zzzz2Grek6ZzzzGrek19Zzzz2Grek3ZzzzGrek9ZzzzZyyy12Zinh2Zyyy87ZzzzZyyy11LatnZzzz2Zyyy11LatnZyy",
   "y15ZzzzLatn13Zzzz3Zyyy33Zzzz15Zinh33Zzzz15Zyyy38GrekZyyy3Latn2Zyyy6LatnZyyy27LatnZyyy17Latn41Z",
   "yyy3Zzzz4Zyyy666Zzzz22Zyyy11Zzzz21Zyyy928Brai256Zyyy628Zzzz2Zyyy32ZzzzZyyy105Glag96Latn32Copt1",
   "16Zzzz5Copt7Geor38ZzzzGeorZzzz5GeorZzzz2Tfng56Zzzz7Tfng2Zzzz14TfngEthi23Zzzz9Ethi7ZzzzEthi7Zzz",
   "zEthi7ZzzzEthi7ZzzzEthi7ZzzzEthi7ZzzzEthi7ZzzzEthi7ZzzzCyrl32Zyyy94Zzzz34Hani26ZzzzHani89Zzzz1",
   "2Hani214Zzzz26Zyyy21HaniZyyyHaniZyyy25Hani9Zinh4Hang2Zyyy8Hani4Zyyy4ZzzzHira86Zzzz2Zinh2Zyyy2H",
   "ira3ZyyyKana90Zyyy2Kana3Zzzz5Bopo43ZzzzHang94ZzzzZyyy16Bopo32Zyyy38Zzzz9ZyyyKana16Hang31ZzzzZy",
   "yy64Hang31Zyyy81Kana47ZyyyKana88Zyyy168Hani6592Zyyy64Hani20992Yiii1165Zzzz3Yiii55Zzzz9Lisu48Va",
   "ii300Zzzz20Cyrl96Bamu88Zzzz8Zyyy34Latn102Zyyy3Latn67Zzzz2Latn2ZzzzLatnZzzzLatn8Zzzz21Latn14Syl",
   "o45Zzzz3Zyyy10Zzzz6Phag56Zzzz8Saur70Zzzz8Saur12Zzzz6Deva32Kali46ZyyyKaliRjng36Zzzz11RjngHang29",
   "Zzzz3Java78ZzzzZyyyJava10Zzzz4Java2Mymr31ZzzzCham55Zzzz9Cham14Zzzz2Cham10Zzzz2Cham4Mymr32Tavt6",
   "7Zzzz24Tavt5Mtei23Zzzz10Ethi6Zzzz2Ethi6Zzzz2Ethi6Zzzz9Ethi7ZzzzEthi7ZzzzLatn43ZyyyLatn9GrekLat",
   "n4Zyyy2Zzzz4Cher80Mtei46Zzzz2Mtei10Zzzz6Hang11172Zzzz12Hang23Zzzz4Hang49Zzzz8452Hani366Zzzz2Ha",
   "ni106Zzzz38Latn7Zzzz12Armn5Zzzz5Hebr26ZzzzHebr5ZzzzHebrZzzzHebr2ZzzzHebr2ZzzzHebr10Arab115Zzzz",
   "16Arab363Zyyy2Arab80Zzzz2Arab54Zzzz7ArabZzzz32Arab16Zinh16Zyyy10Zzzz6Zinh14Cyrl2Zyyy35ZzzzZyyy",
   "19ZzzzZyyy4Zzzz4Arab5ZzzzArab135Zzzz2ZyyyZzzzZyyy32Latn26Zyyy6Latn26Zyyy11Kana10ZyyyKana45Zyyy",
   "2Hang31Zzzz3Hang6Zzzz2Hang6Zzzz2Hang6Zzzz2Hang3Zzzz3Zyyy7ZzzzZyyy7Zzzz10Zyyy5Zzzz2Linb12ZzzzLi",
   "nb26ZzzzLinb19ZzzzLinb2ZzzzLinb15Zzzz2Linb14Zzzz34Linb123Zzzz5Zyyy3Zzzz4Zyyy45Zzzz3Zyyy9Grek79",
   "ZzzzZyyy13Zzzz3GrekZzzz47Zyyy45ZinhZzzz130Lyci29Zzzz3Cari49Zzzz15ZinhZyyy27Zzzz4Ital36Zzzz9Ita",
   "l3Goth27Zzzz5Perm43Zzzz5Ugar30ZzzzUgarXpeo36Zzzz4Xpeo14Zzzz42Dsrt80Shaw48Osma30Zzzz2Osma10Zzzz",
   "6Osge36Zzzz4Osge36Zzzz4Elba40Zzzz8Aghb52Zzzz11AghbVith11ZzzzVith15ZzzzVith7ZzzzVith2ZzzzVith11",
   "ZzzzVith15ZzzzVith7ZzzzVith2Zzzz3Todr52Zzzz12Lina311Zzzz9Lina22Zzzz10Lina8Zzzz24Latn6ZzzzLatn4",
   "2ZzzzLatn9Zzzz69Cprt6Zzzz2CprtZzzzCprt44ZzzzCprt2Zzzz3CprtZzzz2CprtArmi22ZzzzArmi9Palm32Nbat31",
   "Zzzz8Nbat9Zzzz48Hatr19ZzzzHatr2Zzzz5Hatr5Phnx28Zzzz3PhnxLydi26Zzzz5LydiZzzz64Mero32Merc24Zzzz4",
   "Merc20Zzzz2Merc46Khar4ZzzzKhar2Zzzz5Khar8ZzzzKhar3ZzzzKhar29Zzzz2Khar3Zzzz4Khar10Zzzz7Khar9Zzz",
   "z7Sarb32Narb32Zzzz32Mani39Zzzz4Mani12Zzzz9Avst54Zzzz3Avst7Prti22Zzzz2Prti8Phli19Zzzz5Phli8Phlp",
   "18Zzzz7Phlp4Zzzz12Phlp7Zzzz80Orkh73Zzzz55Hung51Zzzz13Hung51Zzzz7Hung6Rohg40Zzzz8Rohg10Zzzz6Gar",
   "a38Zzzz3Gara29Zzzz8Gara2Zzzz208Arab31ZzzzYezi42ZzzzYezi3Zzzz2Yezi2Zzzz16Arab3Zzzz55Arab4Sogo40",
   "Zzzz8Sogd42Zzzz22Ougr26Zzzz38Chrs28Zzzz20Elym23Zzzz9Brah78Zzzz4Brah36Zzzz9BrahKthi67Zzzz10Kthi",
   "Zzzz2Sora25Zzzz7Sora10Zzzz6Cakm53ZzzzCakm18Zzzz8Mahj39Zzzz9Shrd96ZzzzSinh20Zzzz11Khoj18ZzzzKho",
   "j47Zzzz62Mult7ZzzzMultZzzzMult4ZzzzMult15ZzzzMult11Zzzz6Sind59Zzzz5Sind10Zzzz6Gran4ZzzzGran8Zz",
   "zz2Gran2Zzzz2Gran22ZzzzGran7ZzzzGran2ZzzzGran5ZzzzZinhGran9Zzzz2Gran2Zzzz2Gran3Zzzz2GranZzzz6G",
   "ranZzzz5Gran7Zzzz2Gran7Zzzz3Gran5Zzzz11Tutg10ZzzzTutgZzzz2TutgZzzzTutg38ZzzzTutg10ZzzzTutgZzzz",
   "2TutgZzzzTutg4ZzzzTutg10ZzzzTutg2Zzzz8Tutg2Zzzz29Newa92ZzzzNewa5Zzzz30Tirh72Zzzz8Tirh10Zzzz166",
   "Sidd54Zzzz2Sidd38Zzzz34Modi69Zzzz11Modi10Zzzz6Mong13Zzzz19Takr58Zzzz6Takr10Zzzz6Mymr20Zzzz28Ah",
   "om27Zzzz2Ahom15Zzzz4Ahom23Zzzz185Dogr60Zzzz100Wara83Zzzz12WaraDiak7Zzzz2DiakZzzz2Diak8ZzzzDiak",
   "2ZzzzDiak30ZzzzDiak2Zzzz2Diak12Zzzz9Diak10Zzzz70Nand8Zzzz2Nand46Zzzz2Nand11Zzzz27Zanb72Zzzz8So",
   "yo83Zzzz13Cans16Pauc57Zzzz7Deva10Zzzz182Sunu34Zzzz14Sunu10Zzzz6Bhks9ZzzzBhks45ZzzzBhks14Zzzz10",
   "Bhks29Zzzz3Marc32Zzzz2Marc22ZzzzMarc14Zzzz73Gonm7ZzzzGonm2ZzzzGonm44Zzzz3GonmZzzzGonm2ZzzzGonm",
   "9Zzzz8Gonm10Zzzz6Gong6ZzzzGong2ZzzzGong37ZzzzGong2ZzzzGong6Zzzz7Gong10Zzzz310Maka25Zzzz7Kawi17",
   "ZzzzKawi41Zzzz3Kawi29Zzzz85LisuZzzz15Taml50Zzzz13TamlXsux922Zzzz102Xsux111ZzzzXsux5Zzzz11Xsux1",
   "96Zzzz2636Cpmn99Zzzz13Egyp1110Zzzz10Egyp3995Zzzz5Hluw583Zzzz6841Gukh58Zzzz1734Bamu569Zzzz7Mroo",
   "31ZzzzMroo10Zzzz4Mroo2Tnsa79ZzzzTnsa10Zzzz6Bass30Zzzz2Bass6Zzzz10Hmng70Zzzz10Hmng10ZzzzHmng7Zz",
   "zzHmng21Zzzz5Hmng19Zzzz432Krai58Zzzz198Medf91Zzzz101Plrd75Zzzz4Plrd57Zzzz7Plrd17Zzzz64TangNshu",
   "Hani2KitsZzzz11Hani2Zzzz14Tang6136Zzzz8Tang768Kits470Zzzz41KitsTang9Zzzz8935Kana4ZzzzKana7Zzzz",
   "Kana2ZzzzKanaHira287Kana3Zzzz15HiraZzzz29Hira3Zzzz2KanaZzzz14Kana4Zzzz8Nshu396Zzzz2308Dupl107Z",
   "zzz5Dupl13Zzzz3Dupl9Zzzz7Dupl10Zzzz2Dupl4Zyyy4Zzzz3932Zyyy250Zzzz6Zyyy436Zzzz76Zinh46Zzzz2Zinh",
   "23Zzzz9Zyyy116Zzzz60Zyyy246Zzzz10Zyyy39Zzzz2Zyyy62Zinh3Zyyy17Zinh8Zyyy2Zinh7Zyyy30Zinh4Zyyy61Z",
   "zzz21Grek70Zzzz122Zyyy20Zzzz12Zyyy20Zzzz12Zyyy87Zzzz9Zyyy25Zzzz135Zyyy85ZzzzZyyy71ZzzzZyyy2Zzz",
   "z2ZyyyZzzz2Zyyy2Zzzz2Zyyy4ZzzzZyyy12ZzzzZyyyZzzzZyyy7ZzzzZyyy65ZzzzZyyy4Zzzz2Zyyy8ZzzzZyyy7Zzz",
   "zZyyy28ZzzzZyyy4ZzzzZyyy5ZzzzZyyyZzzz3Zyyy7ZzzzZyyy340Zzzz2Zyyy292Zzzz2Zyyy50Sgnw652Zzzz15Sgnw",
   "5ZzzzSgnw15Zzzz1104Latn31Zzzz6Latn6Zzzz213Glag7ZzzzGlag17Zzzz2Glag7ZzzzGlag2ZzzzGlag5Zzzz5Cyrl",
   "62Zzzz33CyrlZzzz112Hmnp45Zzzz3Hmnp14Zzzz2Hmnp10Zzzz4Hmnp2Zzzz320Toto31Zzzz17Wcho58Zzzz5WchoZzz",
   "z464Nagm42Zzzz214Onao43Zzzz4OnaoZzzz480Ethi7ZzzzEthi4ZzzzEthi2ZzzzEthi15ZzzzMend197Zzzz2Mend16",
   "Zzzz41Adlm76Zzzz4Adlm10Zzzz4Adlm2Zzzz785Zyyy68Zzzz76Zyyy61Zzzz194Arab4ZzzzArab27ZzzzArab2ZzzzA",
   "rabZzzz2ArabZzzzArab10ZzzzArab4ZzzzArabZzzzArabZzzz6ArabZzzz4ArabZzzzArabZzzzArabZzzzArab3Zzzz",
   "Arab2ZzzzArabZzzz2ArabZzzzArabZzzzArabZzzzArabZzzzArabZzzzArab2ZzzzArabZzzz2Arab4ZzzzArab7Zzzz",
   "Arab4ZzzzArab4ZzzzArabZzzzArab10ZzzzArab17Zzzz5Arab3ZzzzArab5ZzzzArab17Zzzz52Arab2Zzzz270Zyyy4",
   "4Zzzz4Zyyy100Zzzz12Zyyy15Zzzz2Zyyy15ZzzzZyyy15ZzzzZyyy37Zzzz10Zyyy174Zzzz56Zyyy26HiraZyyy2Zzzz",
   "13Zyyy44Zzzz4Zyyy9Zzzz7Zyyy2Zzzz14Zyyy6Zzzz154Zyyy984Zzzz4Zyyy17Zzzz3Zyyy13Zzzz3Zyyy119Zzzz4Zy",
   "yy95Zzzz6Zyyy12Zzzz4ZyyyZzzz15Zyyy12Zzzz4Zyyy56Zzzz8Zyyy10Zzzz6Zyyy40Zzzz8Zyyy30Zzzz2Zyyy12Zzz",
   "z4Zyyy2Zzzz62Zyyy340Zzzz12Zyyy14Zzzz2Zyyy13Zzzz3Zyyy10Zzzz5Zyyy56Zzzz7Zyyy15Zzzz2Zyyy11Zzzz6Zy",
   "yy9Zzzz7Zyyy147ZzzzZyyy102Zzzz1030Hani42720Zzzz32Hani4154Zzzz6Hani222Zzzz2Hani5762Zzzz14Hani74",
   "73Zzzz15Hani622Zzzz2466Hani542Zzzz1506Hani4939Zzzz5Hani4192Zzzz711761ZyyyZzzz30Zyyy96Zzzz128Zi",
   "nh240Zzzz196112"]

/-- Characters that are used in other scripts than their own, with all that they are used in. -/
def shared : List (String × String) := entriesOf <| String.join
  ["b7:avst.cari.copt.dupl.elba.geor.glag.gong.goth.grek.hani.latn.lydi.mahj.perm.shaw ",
   "2bc:beng.cyrl.deva.latn.lisu.thai.toto 2c7:bopo.latn 2c9-2cb:bopo.latn 2cd:latn.lisu ",
   "2d7:latn.thai 2d9:bopo.latn 300:cher.copt.cyrl.grek.latn.perm.sunu.tale ",
   "301:cher.cyrl.grek.latn.osge.sunu.tale.todr 302:cher.cyrl.latn.tfng ",
   "303:glag.latn.sunu.syrc.thai 304:aghb.cher.copt.cyrl.goth.grek.latn.osge.syrc.tfng.todr ",
   "305:copt.elba.glag.goth.kana.latn 306:cyrl.grek.latn.perm.tfng ",
   "307:copt.dupl.hebr.latn.perm.syrc.tale.tfng.todr ",
   "308:armn.cyrl.dupl.goth.grek.hebr.latn.perm.syrc.tale.tfng 309:latn.tfng 30a:dupl.latn.syrc ",
   "30b:cher.cyrl.latn.osge 30c:cher.latn.tale 30d:latn.sunu 30e:ethi.latn 310:latn.sunu ",
   "311:cyrl.latn.todr 313:grek.latn.perm.todr 323:cher.dupl.kana.latn.syrc.tfng ",
   "324:cher.dupl.latn.syrc 325:latn.syrc 32d:latn.sunu.syrc 32e:latn.syrc 330:cher.latn.syrc ",
   "331:aghb.cher.goth.latn.sunu.syrc.thai 342:grek 345:grek 358:latn.osge 35e:aghb.latn.todr ",
   "363-36f:latn 374-375:copt.grek 483:cyrl.perm 484:cyrl.glag 485-486:cyrl.latn 487:cyrl.glag ",
   "589:armn.geor.glag 60c:arab.gara.nkoo.rohg.syrc.thaa.yezi ",
   "61b:arab.gara.nkoo.rohg.syrc.thaa.yezi 61c:arab.syrc.thaa ",
   "61f:adlm.arab.gara.nkoo.rohg.syrc.thaa.yezi 640:adlm.arab.mand.mani.ougr.phlp.rohg.sogd.syrc ",
   "64b-655:arab.syrc 660-669:arab.thaa.yezi 670:arab.syrc 6d4:arab.rohg ",
   "951:beng.deva.gran.gujr.guru.knda.latn.mlym.nand.newa.orya.shrd.taml.telu.tirh ",
   "952:beng.deva.gran.gujr.guru.knda.latn.mlym.newa.orya.taml.telu.tirh ",
   "964:beng.deva.dogr.gong.gonm.gran.gujr.guru.knda.mahj.mlym.nand.onao.orya.sind.sinh.sylo.takr.",
   "taml.telu.tirh ",
   "965:beng.deva.dogr.gong.gonm.gran.gujr.gukh.guru.knda.limb.mahj.mlym.nand.onao.orya.sind.sinh.",
   "sylo.takr.taml.telu.tirh 966-96f:deva.dogr.kthi.mahj 9e6-9ef:beng.cakm.sylo a66-a6f:guru.mult ",
   "ae6-aef:gujr.khoj be6-bf3:gran.taml ce6-cef:knda.nand.tutg 1040-1049:cakm.mymr.tale ",
   "10fb:geor.glag.latn 16eb-16ed:runr 1735-1736:buhd.hano.tagb.tglg 1802-1803:mong.phag ",
   "1805:mong.phag 1cd0:beng.deva.gran.knda 1cd1:deva 1cd2:beng.deva.gran.knda ",
   "1cd3:deva.gran.knda 1cd4:deva 1cd5:beng.deva.newa.telu.tirh 1cd6:beng.deva.telu ",
   "1cd7:deva.newa.shrd 1cd8:beng.deva.newa.telu 1cd9:deva.shrd ",
   "1cda:deva.knda.mlym.orya.taml.telu 1cdb:deva 1cdc-1cdd:deva.shrd 1cde-1cdf:deva ",
   "1ce0:deva.shrd 1ce1:beng.deva 1ce2:deva.newa.tirh 1ce3-1ce8:deva 1ce9:deva.nand.newa ",
   "1cea:beng.deva.shrd 1ceb:deva.newa 1cec:deva 1ced:beng.deva.newa.shrd 1cee-1cf1:deva ",
   "1cf2:beng.deva.gran.knda.mlym.nand.orya.sinh.telu.tirh.tutg 1cf3:deva.gran ",
   "1cf4:deva.gran.knda.tutg 1cf5-1cf6:beng.deva 1cf7:beng 1cf8-1cf9:deva.gran 1cfa:nand ",
   "1dc0-1dc1:grek 1df8:cyrl.latn.syrc 1dfa:syrc 202f:latn.mong.phag 204f:adlm.arab ",
   "205a:cari.geor.glag.hung.lyci.orkh 205d:cari.grek.hung.mero 20f0:deva.gran.latn ",
   "2e17:copt.latn 2e30:avst.orkh 2e31:avst.cari.geor.hung.kthi.lydi.samr 2e3c:dupl ",
   "2e41:adlm.arab.hung 2e43:cyrl.glag 2ff0-2fff:hani.tang ",
   "3001:bopo.hang.hani.hira.kana.mong.yiii 3002:bopo.hang.hani.hira.kana.mong.phag.yiii ",
   "3003:bopo.hang.hani.hira.kana 3006:hani 3008-3009:bopo.hang.hani.hira.kana.mong.tibt.yiii ",
   "300a-300b:bopo.hang.hani.hira.kana.lisu.mong.tibt.yiii ",
   "300c-3011:bopo.hang.hani.hira.kana.yiii 3013:bopo.hang.hani.hira.kana ",
   "3014-301b:bopo.hang.hani.hira.kana.yiii 301c-301f:bopo.hang.hani.hira.kana ",
   "302a-302d:bopo.hani 3030:bopo.hang.hani.hira.kana 3031-3035:hira.kana ",
   "3037:bopo.hang.hani.hira.kana 303c-303d:hani.hira.kana 303e-303f:hani 3099-309c:hira.kana ",
   "30a0:hira.kana 30fb:bopo.hang.hani.hira.kana.yiii 30fc:hira.kana 3190-319f:hani ",
   "31c0-31e5:hani 31ef:hani.tang 3220-3247:hani 3280-32b0:hani 32c0-32cb:hani 32ff:hani ",
   "3358-3370:hani 337b-337f:hani 33e0-33fe:hani a66f:cyrl.glag a700-a707:hani.latn ",
   "a830-a832:deva.dogr.gujr.guru.khoj.knda.kthi.mahj.mlym.modi.nand.shrd.sind.takr.tirh.tutg ",
   "a833-a835:deva.dogr.gujr.guru.khoj.knda.kthi.mahj.modi.nand.shrd.sind.takr.tirh.tutg ",
   "a836-a837:deva.dogr.gujr.guru.khoj.kthi.mahj.modi.sind.takr.tirh ",
   "a838:deva.dogr.gujr.guru.khoj.kthi.mahj.modi.shrd.sind.takr.tirh ",
   "a839:deva.dogr.gujr.guru.khoj.kthi.mahj.modi.sind.takr.tirh a8f1:beng.deva.tutg ",
   "a8f3:deva.taml a92e:kali.latn.mymr a9cf:bugi.java fd3e-fd3f:arab.nkoo fdf2:arab.thaa ",
   "fdfd:arab.thaa fe45-fe46:bopo.hang.hani.hira.kana ff61-ff65:bopo.hang.hani.hira.kana.yiii ",
   "ff70:hira.kana ff9e-ff9f:hira.kana 10100-10101:cpmn.cprt.linb 10102:cprt.linb ",
   "10107-10133:cprt.lina.linb 10137-1013f:cprt.linb 102e0-102fb:arab.copt 10af2:mani.ougr ",
   "11301:gran.taml 11303:gran.taml 1133b-1133c:gran.taml 11fd0-11fd1:gran.taml 11fd3:gran.taml ",
   "1bca0-1bca3:dupl 1d360-1d371:hani 1f250-1f251:hani"]

def code? (name : String) : Option String :=
  (names.find? fun (code, known) => code == name || (known.splitOn ".").contains name).map Prod.fst

def set (code : String) : CharSet := .ofRanges (table.ranges (· == code))

def extended (code : String) : CharSet :=
  let (inside, outside) := shared.partition fun (_, codes) => (codes.splitOn ".").contains code
  let chars (entries : List (String × String)) : CharSet :=
    .ofRanges (entries.flatMap fun (ranges, _) => rangesOf ranges)
  (set code \ chars outside) ∪ chars inside

end HttpScenario.Text.Script
