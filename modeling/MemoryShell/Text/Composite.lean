/-!
Characters of identifiers that are composed of two others, as Unicode 14 gives them. Syllables of
Hangul are composed by arithmetic: of a leading consonant and a vowel, and such a syllable again of
a trailing consonant.
-/

set_option autoImplicit false

namespace MemoryShell.Text

/-- Composed characters, each followed by the two that it is composed of. -/
def compositeRows : List String := [
  "ÀA\u0300ÁA\u0301ÂA\u0302ÃA\u0303ÄA\u0308ÅA\u030aÇC\u0327ÈE\u0300ÉE\u0301ÊE\u0302ËE\u0308",
  "ÌI\u0300ÍI\u0301ÎI\u0302ÏI\u0308ÑN\u0303ÒO\u0300ÓO\u0301ÔO\u0302ÕO\u0303ÖO\u0308ÙU\u0300",
  "ÚU\u0301ÛU\u0302ÜU\u0308ÝY\u0301àa\u0300áa\u0301âa\u0302ãa\u0303äa\u0308åa\u030açc\u0327",
  "èe\u0300ée\u0301êe\u0302ëe\u0308ìi\u0300íi\u0301îi\u0302ïi\u0308ñn\u0303òo\u0300óo\u0301",
  "ôo\u0302õo\u0303öo\u0308ùu\u0300úu\u0301ûu\u0302üu\u0308ýy\u0301ÿy\u0308ĀA\u0304āa\u0304",
  "ĂA\u0306ăa\u0306ĄA\u0328ąa\u0328ĆC\u0301ćc\u0301ĈC\u0302ĉc\u0302ĊC\u0307ċc\u0307ČC\u030c",
  "čc\u030cĎD\u030cďd\u030cĒE\u0304ēe\u0304ĔE\u0306ĕe\u0306ĖE\u0307ėe\u0307ĘE\u0328ęe\u0328",
  "ĚE\u030cěe\u030cĜG\u0302ĝg\u0302ĞG\u0306ğg\u0306ĠG\u0307ġg\u0307ĢG\u0327ģg\u0327ĤH\u0302",
  "ĥh\u0302ĨI\u0303ĩi\u0303ĪI\u0304īi\u0304ĬI\u0306ĭi\u0306ĮI\u0328įi\u0328İI\u0307ĴJ\u0302",
  "ĵj\u0302ĶK\u0327ķk\u0327ĹL\u0301ĺl\u0301ĻL\u0327ļl\u0327ĽL\u030cľl\u030cŃN\u0301ńn\u0301",
  "ŅN\u0327ņn\u0327ŇN\u030cňn\u030cŌO\u0304ōo\u0304ŎO\u0306ŏo\u0306ŐO\u030bőo\u030bŔR\u0301",
  "ŕr\u0301ŖR\u0327ŗr\u0327ŘR\u030cřr\u030cŚS\u0301śs\u0301ŜS\u0302ŝs\u0302ŞS\u0327şs\u0327",
  "ŠS\u030cšs\u030cŢT\u0327ţt\u0327ŤT\u030cťt\u030cŨU\u0303ũu\u0303ŪU\u0304ūu\u0304ŬU\u0306",
  "ŭu\u0306ŮU\u030aůu\u030aŰU\u030bűu\u030bŲU\u0328ųu\u0328ŴW\u0302ŵw\u0302ŶY\u0302ŷy\u0302",
  "ŸY\u0308ŹZ\u0301źz\u0301ŻZ\u0307żz\u0307ŽZ\u030cžz\u030cƠO\u031bơo\u031bƯU\u031bưu\u031b",
  "ǍA\u030cǎa\u030cǏI\u030cǐi\u030cǑO\u030cǒo\u030cǓU\u030cǔu\u030cǕÜ\u0304ǖü\u0304ǗÜ\u0301",
  "ǘü\u0301ǙÜ\u030cǚü\u030cǛÜ\u0300ǜü\u0300ǞÄ\u0304ǟä\u0304ǠȦ\u0304ǡȧ\u0304ǢÆ\u0304ǣæ\u0304",
  "ǦG\u030cǧg\u030cǨK\u030cǩk\u030cǪO\u0328ǫo\u0328ǬǪ\u0304ǭǫ\u0304ǮƷ\u030cǯʒ\u030cǰj\u030c",
  "ǴG\u0301ǵg\u0301ǸN\u0300ǹn\u0300ǺÅ\u0301ǻå\u0301ǼÆ\u0301ǽæ\u0301ǾØ\u0301ǿø\u0301ȀA\u030f",
  "ȁa\u030fȂA\u0311ȃa\u0311ȄE\u030fȅe\u030fȆE\u0311ȇe\u0311ȈI\u030fȉi\u030fȊI\u0311ȋi\u0311",
  "ȌO\u030fȍo\u030fȎO\u0311ȏo\u0311ȐR\u030fȑr\u030fȒR\u0311ȓr\u0311ȔU\u030fȕu\u030fȖU\u0311",
  "ȗu\u0311ȘS\u0326șs\u0326ȚT\u0326țt\u0326ȞH\u030cȟh\u030cȦA\u0307ȧa\u0307ȨE\u0327ȩe\u0327",
  "ȪÖ\u0304ȫö\u0304ȬÕ\u0304ȭõ\u0304ȮO\u0307ȯo\u0307ȰȮ\u0304ȱȯ\u0304ȲY\u0304ȳy\u0304ΆΑ\u0301",
  "ΈΕ\u0301ΉΗ\u0301ΊΙ\u0301ΌΟ\u0301ΎΥ\u0301ΏΩ\u0301ΐϊ\u0301ΪΙ\u0308ΫΥ\u0308άα\u0301έε\u0301",
  "ήη\u0301ίι\u0301ΰϋ\u0301ϊι\u0308ϋυ\u0308όο\u0301ύυ\u0301ώω\u0301ϓϒ\u0301ϔϒ\u0308ЀЕ\u0300",
  "ЁЕ\u0308ЃГ\u0301ЇІ\u0308ЌК\u0301ЍИ\u0300ЎУ\u0306ЙИ\u0306йи\u0306ѐе\u0300ёе\u0308ѓг\u0301",
  "їі\u0308ќк\u0301ѝи\u0300ўу\u0306ѶѴ\u030fѷѵ\u030fӁЖ\u0306ӂж\u0306ӐА\u0306ӑа\u0306ӒА\u0308",
  "ӓа\u0308ӖЕ\u0306ӗе\u0306ӚӘ\u0308ӛә\u0308ӜЖ\u0308ӝж\u0308ӞЗ\u0308ӟз\u0308ӢИ\u0304ӣи\u0304",
  "ӤИ\u0308ӥи\u0308ӦО\u0308ӧо\u0308ӪӨ\u0308ӫө\u0308ӬЭ\u0308ӭэ\u0308ӮУ\u0304ӯу\u0304ӰУ\u0308",
  "ӱу\u0308ӲУ\u030bӳу\u030bӴЧ\u0308ӵч\u0308ӸЫ\u0308ӹы\u0308\u0622\u0627\u0653",
  "\u0623\u0627\u0654\u0624\u0648\u0654\u0625\u0627\u0655\u0626\u064a\u0654\u06c0\u06d5\u0654",
  "\u06c2\u06c1\u0654\u06d3\u06d2\u0654ऩन\u093cऱर\u093cऴळ\u093c\u09cb\u09c7\u09be",
  "\u09cc\u09c7\u09d7\u0b48\u0b47\u0b56\u0b4b\u0b47\u0b3e\u0b4c\u0b47\u0b57ஔஒ\u0bd7",
  "\u0bca\u0bc6\u0bbe\u0bcb\u0bc7\u0bbe\u0bcc\u0bc6\u0bd7\u0c48\u0c46\u0c56\u0cc0\u0cbf\u0cd5",
  "\u0cc7\u0cc6\u0cd5\u0cc8\u0cc6\u0cd6\u0cca\u0cc6\u0cc2\u0ccb\u0cca\u0cd5\u0d4a\u0d46\u0d3e",
  "\u0d4b\u0d47\u0d3e\u0d4c\u0d46\u0d57\u0dda\u0dd9\u0dca\u0ddc\u0dd9\u0dcf\u0ddd\u0ddc\u0dca",
  "\u0dde\u0dd9\u0ddfဦဥ\u102eᬆᬅ\u1b35ᬈᬇ\u1b35ᬊᬉ\u1b35ᬌᬋ\u1b35ᬎᬍ\u1b35ᬒᬑ\u1b35",
  "\u1b3b\u1b3a\u1b35\u1b3d\u1b3c\u1b35\u1b40\u1b3e\u1b35\u1b41\u1b3f\u1b35\u1b43\u1b42\u1b35",
  "ḀA\u0325ḁa\u0325ḂB\u0307ḃb\u0307ḄB\u0323ḅb\u0323ḆB\u0331ḇb\u0331ḈÇ\u0301ḉç\u0301ḊD\u0307",
  "ḋd\u0307ḌD\u0323ḍd\u0323ḎD\u0331ḏd\u0331ḐD\u0327ḑd\u0327ḒD\u032dḓd\u032dḔĒ\u0300ḕē\u0300",
  "ḖĒ\u0301ḗē\u0301ḘE\u032dḙe\u032dḚE\u0330ḛe\u0330ḜȨ\u0306ḝȩ\u0306ḞF\u0307ḟf\u0307ḠG\u0304",
  "ḡg\u0304ḢH\u0307ḣh\u0307ḤH\u0323ḥh\u0323ḦH\u0308ḧh\u0308ḨH\u0327ḩh\u0327ḪH\u032eḫh\u032e",
  "ḬI\u0330ḭi\u0330ḮÏ\u0301ḯï\u0301ḰK\u0301ḱk\u0301ḲK\u0323ḳk\u0323ḴK\u0331ḵk\u0331ḶL\u0323",
  "ḷl\u0323ḸḶ\u0304ḹḷ\u0304ḺL\u0331ḻl\u0331ḼL\u032dḽl\u032dḾM\u0301ḿm\u0301ṀM\u0307ṁm\u0307",
  "ṂM\u0323ṃm\u0323ṄN\u0307ṅn\u0307ṆN\u0323ṇn\u0323ṈN\u0331ṉn\u0331ṊN\u032dṋn\u032dṌÕ\u0301",
  "ṍõ\u0301ṎÕ\u0308ṏõ\u0308ṐŌ\u0300ṑō\u0300ṒŌ\u0301ṓō\u0301ṔP\u0301ṕp\u0301ṖP\u0307ṗp\u0307",
  "ṘR\u0307ṙr\u0307ṚR\u0323ṛr\u0323ṜṚ\u0304ṝṛ\u0304ṞR\u0331ṟr\u0331ṠS\u0307ṡs\u0307ṢS\u0323",
  "ṣs\u0323ṤŚ\u0307ṥś\u0307ṦŠ\u0307ṧš\u0307ṨṢ\u0307ṩṣ\u0307ṪT\u0307ṫt\u0307ṬT\u0323ṭt\u0323",
  "ṮT\u0331ṯt\u0331ṰT\u032dṱt\u032dṲU\u0324ṳu\u0324ṴU\u0330ṵu\u0330ṶU\u032dṷu\u032dṸŨ\u0301",
  "ṹũ\u0301ṺŪ\u0308ṻū\u0308ṼV\u0303ṽv\u0303ṾV\u0323ṿv\u0323ẀW\u0300ẁw\u0300ẂW\u0301ẃw\u0301",
  "ẄW\u0308ẅw\u0308ẆW\u0307ẇw\u0307ẈW\u0323ẉw\u0323ẊX\u0307ẋx\u0307ẌX\u0308ẍx\u0308ẎY\u0307",
  "ẏy\u0307ẐZ\u0302ẑz\u0302ẒZ\u0323ẓz\u0323ẔZ\u0331ẕz\u0331ẖh\u0331ẗt\u0308ẘw\u030aẙy\u030a",
  "ẛſ\u0307ẠA\u0323ạa\u0323ẢA\u0309ảa\u0309ẤÂ\u0301ấâ\u0301ẦÂ\u0300ầâ\u0300ẨÂ\u0309ẩâ\u0309",
  "ẪÂ\u0303ẫâ\u0303ẬẠ\u0302ậạ\u0302ẮĂ\u0301ắă\u0301ẰĂ\u0300ằă\u0300ẲĂ\u0309ẳă\u0309ẴĂ\u0303",
  "ẵă\u0303ẶẠ\u0306ặạ\u0306ẸE\u0323ẹe\u0323ẺE\u0309ẻe\u0309ẼE\u0303ẽe\u0303ẾÊ\u0301ếê\u0301",
  "ỀÊ\u0300ềê\u0300ỂÊ\u0309ểê\u0309ỄÊ\u0303ễê\u0303ỆẸ\u0302ệẹ\u0302ỈI\u0309ỉi\u0309ỊI\u0323",
  "ịi\u0323ỌO\u0323ọo\u0323ỎO\u0309ỏo\u0309ỐÔ\u0301ốô\u0301ỒÔ\u0300ồô\u0300ỔÔ\u0309ổô\u0309",
  "ỖÔ\u0303ỗô\u0303ỘỌ\u0302ộọ\u0302ỚƠ\u0301ớơ\u0301ỜƠ\u0300ờơ\u0300ỞƠ\u0309ởơ\u0309ỠƠ\u0303",
  "ỡơ\u0303ỢƠ\u0323ợơ\u0323ỤU\u0323ụu\u0323ỦU\u0309ủu\u0309ỨƯ\u0301ứư\u0301ỪƯ\u0300ừư\u0300",
  "ỬƯ\u0309ửư\u0309ỮƯ\u0303ữư\u0303ỰƯ\u0323ựư\u0323ỲY\u0300ỳy\u0300ỴY\u0323ỵy\u0323ỶY\u0309",
  "ỷy\u0309ỸY\u0303ỹy\u0303ἀα\u0313ἁα\u0314ἂἀ\u0300ἃἁ\u0300ἄἀ\u0301ἅἁ\u0301ἆἀ\u0342ἇἁ\u0342",
  "ἈΑ\u0313ἉΑ\u0314ἊἈ\u0300ἋἉ\u0300ἌἈ\u0301ἍἉ\u0301ἎἈ\u0342ἏἉ\u0342ἐε\u0313ἑε\u0314ἒἐ\u0300",
  "ἓἑ\u0300ἔἐ\u0301ἕἑ\u0301ἘΕ\u0313ἙΕ\u0314ἚἘ\u0300ἛἙ\u0300ἜἘ\u0301ἝἙ\u0301ἠη\u0313ἡη\u0314",
  "ἢἠ\u0300ἣἡ\u0300ἤἠ\u0301ἥἡ\u0301ἦἠ\u0342ἧἡ\u0342ἨΗ\u0313ἩΗ\u0314ἪἨ\u0300ἫἩ\u0300ἬἨ\u0301",
  "ἭἩ\u0301ἮἨ\u0342ἯἩ\u0342ἰι\u0313ἱι\u0314ἲἰ\u0300ἳἱ\u0300ἴἰ\u0301ἵἱ\u0301ἶἰ\u0342ἷἱ\u0342",
  "ἸΙ\u0313ἹΙ\u0314ἺἸ\u0300ἻἹ\u0300ἼἸ\u0301ἽἹ\u0301ἾἸ\u0342ἿἹ\u0342ὀο\u0313ὁο\u0314ὂὀ\u0300",
  "ὃὁ\u0300ὄὀ\u0301ὅὁ\u0301ὈΟ\u0313ὉΟ\u0314ὊὈ\u0300ὋὉ\u0300ὌὈ\u0301ὍὉ\u0301ὐυ\u0313ὑυ\u0314",
  "ὒὐ\u0300ὓὑ\u0300ὔὐ\u0301ὕὑ\u0301ὖὐ\u0342ὗὑ\u0342ὙΥ\u0314ὛὙ\u0300ὝὙ\u0301ὟὙ\u0342ὠω\u0313",
  "ὡω\u0314ὢὠ\u0300ὣὡ\u0300ὤὠ\u0301ὥὡ\u0301ὦὠ\u0342ὧὡ\u0342ὨΩ\u0313ὩΩ\u0314ὪὨ\u0300ὫὩ\u0300",
  "ὬὨ\u0301ὭὩ\u0301ὮὨ\u0342ὯὩ\u0342ὰα\u0300ὲε\u0300ὴη\u0300ὶι\u0300ὸο\u0300ὺυ\u0300ὼω\u0300",
  "ᾀἀ\u0345ᾁἁ\u0345ᾂἂ\u0345ᾃἃ\u0345ᾄἄ\u0345ᾅἅ\u0345ᾆἆ\u0345ᾇἇ\u0345ᾈἈ\u0345ᾉἉ\u0345ᾊἊ\u0345",
  "ᾋἋ\u0345ᾌἌ\u0345ᾍἍ\u0345ᾎἎ\u0345ᾏἏ\u0345ᾐἠ\u0345ᾑἡ\u0345ᾒἢ\u0345ᾓἣ\u0345ᾔἤ\u0345ᾕἥ\u0345",
  "ᾖἦ\u0345ᾗἧ\u0345ᾘἨ\u0345ᾙἩ\u0345ᾚἪ\u0345ᾛἫ\u0345ᾜἬ\u0345ᾝἭ\u0345ᾞἮ\u0345ᾟἯ\u0345ᾠὠ\u0345",
  "ᾡὡ\u0345ᾢὢ\u0345ᾣὣ\u0345ᾤὤ\u0345ᾥὥ\u0345ᾦὦ\u0345ᾧὧ\u0345ᾨὨ\u0345ᾩὩ\u0345ᾪὪ\u0345ᾫὫ\u0345",
  "ᾬὬ\u0345ᾭὭ\u0345ᾮὮ\u0345ᾯὯ\u0345ᾰα\u0306ᾱα\u0304ᾲὰ\u0345ᾳα\u0345ᾴά\u0345ᾶα\u0342ᾷᾶ\u0345",
  "ᾸΑ\u0306ᾹΑ\u0304ᾺΑ\u0300ᾼΑ\u0345ῂὴ\u0345ῃη\u0345ῄή\u0345ῆη\u0342ῇῆ\u0345ῈΕ\u0300ῊΗ\u0300",
  "ῌΗ\u0345ῐι\u0306ῑι\u0304ῒϊ\u0300ῖι\u0342ῗϊ\u0342ῘΙ\u0306ῙΙ\u0304ῚΙ\u0300ῠυ\u0306ῡυ\u0304",
  "ῢϋ\u0300ῤρ\u0313ῥρ\u0314ῦυ\u0342ῧϋ\u0342ῨΥ\u0306ῩΥ\u0304ῪΥ\u0300ῬΡ\u0314ῲὼ\u0345ῳω\u0345",
  "ῴώ\u0345ῶω\u0342ῷῶ\u0345ῸΟ\u0300ῺΩ\u0300ῼΩ\u0345がか\u3099ぎき\u3099ぐく\u3099げけ\u3099ごこ\u3099",
  "ざさ\u3099じし\u3099ずす\u3099ぜせ\u3099ぞそ\u3099だた\u3099ぢち\u3099づつ\u3099でて\u3099どと\u3099ばは\u3099",
  "ぱは\u309aびひ\u3099ぴひ\u309aぶふ\u3099ぷふ\u309aべへ\u3099ぺへ\u309aぼほ\u3099ぽほ\u309aゔう\u3099ゞゝ\u3099",
  "ガカ\u3099ギキ\u3099グク\u3099ゲケ\u3099ゴコ\u3099ザサ\u3099ジシ\u3099ズス\u3099ゼセ\u3099ゾソ\u3099ダタ\u3099",
  "ヂチ\u3099ヅツ\u3099デテ\u3099ドト\u3099バハ\u3099パハ\u309aビヒ\u3099ピヒ\u309aブフ\u3099プフ\u309aベヘ\u3099",
  "ペヘ\u309aボホ\u3099ポホ\u309aヴウ\u3099ヷワ\u3099ヸヰ\u3099ヹヱ\u3099ヺヲ\u3099ヾヽ\u3099𑂚𑂚𑂜𑂜𑂫𑂫𑄮𑄮𑄯𑄯𑍋𑍋",
  "𑍌𑍌𑒻𑒻𑒼𑒼𑒾𑒾𑖺𑖺𑖻𑖻𑤸𑤸"]

def triples : List Char → List (Char × Char × Char)
  | a :: b :: c :: cs => (a, b, c) :: triples cs
  | _ => []

def composites : List (Char × Char × Char) :=
  compositeRows.flatMap fun row => triples row.toList

def firstSyllable : Nat := 0xAC00

/-- The first leading consonant, vowel and trailing consonant of Hangul; what stands for no trailing
consonant counts as the first of them. -/
def firstLeading : Nat := 0x1100

@[inherit_doc firstLeading]
def firstVowel : Nat := 0x1161

@[inherit_doc firstLeading]
def firstTrailing : Nat := 0x11A7

def leadingCount : Nat := 19

@[inherit_doc leadingCount]
def vowelCount : Nat := 21

@[inherit_doc leadingCount]
def trailingCount : Nat := 28

def position? (first count n : Nat) : Option Nat :=
  if first ≤ n && n < first + count then some (n - first) else none

def syllable? (c : Char) : Option Nat :=
  position? firstSyllable (leadingCount * vowelCount * trailingCount) c.toNat

/-- The two characters that a character is composed of. -/
def parts? (c : Char) : Option (Char × Char) :=
  match syllable? c with
  | some s =>
    let trailing := s % trailingCount
    if trailing = 0 then
      let pair := s / trailingCount
      some (Char.ofNat (firstLeading + pair / vowelCount),
        Char.ofNat (firstVowel + pair % vowelCount))
    else some (Char.ofNat (c.toNat - trailing), Char.ofNat (firstTrailing + trailing))
  | none => (composites.find? fun entry => entry.1 = c).map Prod.snd

/-- The syllable of Hangul that two characters compose. -/
def composeSyllable? (a b : Char) : Option Char :=
  match position? firstLeading leadingCount a.toNat, position? firstVowel vowelCount b.toNat with
  | some leading, some vowel =>
    some (Char.ofNat (firstSyllable + (leading * vowelCount + vowel) * trailingCount))
  | _, _ =>
    match syllable? a, position? firstTrailing trailingCount b.toNat with
    | some s, some trailing =>
      if s % trailingCount = 0 && trailing ≠ 0 then some (Char.ofNat (a.toNat + trailing))
      else none
    | _, _ => none

def compose? (a b : Char) : Option Char :=
  match composeSyllable? a b with
  | some c => some c
  | none => (composites.find? fun entry => entry.2 = (a, b)).map Prod.fst

end MemoryShell.Text
