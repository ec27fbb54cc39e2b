import StreamNames.Unicode.CodeTable

/-!
# Grapheme, word and sentence breaks

The classes by which text is cut into grapheme clusters, words and sentences, of
Unicode 16.0.0. In each table `XX` stands for a code point that no rule names.

Precomposed Hangul syllables are computed: every 28th has no final consonant (`LV`),
the others have one (`LVT`).
-/

namespace StreamNames.Unicode

/-- The grapheme cluster break class of every code point, Hangul syllables all as `LV`. -/
def graphemeBreaks : Partition := .ofText "
0CN aLF bCN dCR eCN 20XX 7fCN a0XX adCN aeXX 300EX 370XX 483EX 48aXX 591EX 5beXX 5bfEX 5c0XX
5c1EX 5c3XX 5c4EX 5c6XX 5c7EX 5c8XX 600PP 606XX 610EX 61bXX 61cCN 61dXX 64bEX 660XX 670EX 671XX
6d6EX 6ddPP 6deXX 6dfEX 6e5XX 6e7EX 6e9XX 6eaEX 6eeXX 70fPP 710XX 711EX 712XX 730EX 74bXX 7a6EX
7b1XX 7ebEX 7f4XX 7fdEX 7feXX 816EX 81aXX 81bEX 824XX 825EX 828XX 829EX 82eXX 859EX 85cXX 890PP
892XX 897EX 8a0XX 8caEX 8e2PP 8e3EX 903SM 904XX 93aEX 93bSM 93cEX 93dXX 93eSM 941EX 949SM 94dEX
94eSM 950XX 951EX 958XX 962EX 964XX 981EX 982SM 984XX 9bcEX 9bdXX 9beEX 9bfSM 9c1EX 9c5XX 9c7SM
9c9XX 9cbSM 9cdEX 9ceXX 9d7EX 9d8XX 9e2EX 9e4XX 9feEX 9ffXX a01EX a03SM a04XX a3cEX a3dXX a3eSM
a41EX a43XX a47EX a49XX a4bEX a4eXX a51EX a52XX a70EX a72XX a75EX a76XX a81EX a83SM a84XX abcEX
abdXX abeSM ac1EX ac6XX ac7EX ac9SM acaXX acbSM acdEX aceXX ae2EX ae4XX afaEX b00XX b01EX b02SM
b04XX b3cEX b3dXX b3eEX b40SM b41EX b45XX b47SM b49XX b4bSM b4dEX b4eXX b55EX b58XX b62EX b64XX
b82EX b83XX bbeEX bbfSM bc0EX bc1SM bc3XX bc6SM bc9XX bcaSM bcdEX bceXX bd7EX bd8XX c00EX c01SM
c04EX c05XX c3cEX c3dXX c3eEX c41SM c45XX c46EX c49XX c4aEX c4eXX c55EX c57XX c62EX c64XX c81EX
c82SM c84XX cbcEX cbdXX cbeSM cbfEX cc1SM cc2EX cc3SM cc5XX cc6EX cc9XX ccaEX cceXX cd5EX cd7XX
ce2EX ce4XX cf3SM cf4XX d00EX d02SM d04XX d3bEX d3dXX d3eEX d3fSM d41EX d45XX d46SM d49XX d4aSM
d4dEX d4ePP d4fXX d57EX d58XX d62EX d64XX d81EX d82SM d84XX dcaEX dcbXX dcfEX dd0SM dd2EX dd5XX
dd6EX dd7XX dd8SM ddfEX de0XX df2SM df4XX e31EX e32XX e33SM e34EX e3bXX e47EX e4fXX eb1EX eb2XX
eb3SM eb4EX ebdXX ec8EX ecfXX f18EX f1aXX f35EX f36XX f37EX f38XX f39EX f3aXX f3eSM f40XX f71EX
f7fSM f80EX f85XX f86EX f88XX f8dEX f98XX f99EX fbdXX fc6EX fc7XX 102dEX 1031SM 1032EX 1038XX
1039EX 103bSM 103dEX 103fXX 1056SM 1058EX 105aXX 105eEX 1061XX 1071EX 1075XX 1082EX 1083XX 1084SM
1085EX 1087XX 108dEX 108eXX 109dEX 109eXX 1100L 1160V 11a8T 1200XX 135dEX 1360XX 1712EX 1716XX
1732EX 1735XX 1752EX 1754XX 1772EX 1774XX 17b4EX 17b6SM 17b7EX 17beSM 17c6EX 17c7SM 17c9EX 17d4XX
17ddEX 17deXX 180bEX 180eCN 180fEX 1810XX 1885EX 1887XX 18a9EX 18aaXX 1920EX 1923SM 1927EX 1929SM
192cXX 1930SM 1932EX 1933SM 1939EX 193cXX 1a17EX 1a19SM 1a1bEX 1a1cXX 1a55SM 1a56EX 1a57SM 1a58EX
1a5fXX 1a60EX 1a61XX 1a62EX 1a63XX 1a65EX 1a6dSM 1a73EX 1a7dXX 1a7fEX 1a80XX 1ab0EX 1acfXX 1b00EX
1b04SM 1b05XX 1b34EX 1b3eSM 1b42EX 1b45XX 1b6bEX 1b74XX 1b80EX 1b82SM 1b83XX 1ba1SM 1ba2EX 1ba6SM
1ba8EX 1baeXX 1be6EX 1be7SM 1be8EX 1beaSM 1bedEX 1beeSM 1befEX 1bf4XX 1c24SM 1c2cEX 1c34SM 1c36EX
1c38XX 1cd0EX 1cd3XX 1cd4EX 1ce1SM 1ce2EX 1ce9XX 1cedEX 1ceeXX 1cf4EX 1cf5XX 1cf7SM 1cf8EX 1cfaXX
1dc0EX 1e00XX 200bCN 200cEX 200dZWJ 200eCN 2010XX 2028CN 202fXX 2060CN 2070XX 20d0EX 20f1XX
2cefEX 2cf2XX 2d7fEX 2d80XX 2de0EX 2e00XX 302aEX 3030XX 3099EX 309bXX a66fEX a673XX a674EX a67eXX
a69eEX a6a0XX a6f0EX a6f2XX a802EX a803XX a806EX a807XX a80bEX a80cXX a823SM a825EX a827SM a828XX
a82cEX a82dXX a880SM a882XX a8b4SM a8c4EX a8c6XX a8e0EX a8f2XX a8ffEX a900XX a926EX a92eXX a947EX
a952SM a953EX a954XX a960L a97dXX a980EX a983SM a984XX a9b3EX a9b4SM a9b6EX a9baSM a9bcEX a9beSM
a9c0EX a9c1XX a9e5EX a9e6XX aa29EX aa2fSM aa31EX aa33SM aa35EX aa37XX aa43EX aa44XX aa4cEX aa4dSM
aa4eXX aa7cEX aa7dXX aab0EX aab1XX aab2EX aab5XX aab7EX aab9XX aabeEX aac0XX aac1EX aac2XX aaebSM
aaecEX aaeeSM aaf0XX aaf5SM aaf6EX aaf7XX abe3SM abe5EX abe6SM abe8EX abe9SM abebXX abecSM abedEX
abeeXX ac00LV d7a4XX d7b0V d7c7XX d7cbT d7fcXX fb1eEX fb1fXX fe00EX fe10XX fe20EX fe30XX feffCN
ff00XX ff9eEX ffa0XX fff0CN fffcXX 101fdEX 101feXX 102e0EX 102e1XX 10376EX 1037bXX 10a01EX
10a04XX 10a05EX 10a07XX 10a0cEX 10a10XX 10a38EX 10a3bXX 10a3fEX 10a40XX 10ae5EX 10ae7XX 10d24EX
10d28XX 10d69EX 10d6eXX 10eabEX 10eadXX 10efcEX 10f00XX 10f46EX 10f51XX 10f82EX 10f86XX 11000SM
11001EX 11002SM 11003XX 11038EX 11047XX 11070EX 11071XX 11073EX 11075XX 1107fEX 11082SM 11083XX
110b0SM 110b3EX 110b7SM 110b9EX 110bbXX 110bdPP 110beXX 110c2EX 110c3XX 110cdPP 110ceXX 11100EX
11103XX 11127EX 1112cSM 1112dEX 11135XX 11145SM 11147XX 11173EX 11174XX 11180EX 11182SM 11183XX
111b3SM 111b6EX 111bfSM 111c0EX 111c1XX 111c2PP 111c4XX 111c9EX 111cdXX 111ceSM 111cfEX 111d0XX
1122cSM 1122fEX 11232SM 11234EX 11238XX 1123eEX 1123fXX 11241EX 11242XX 112dfEX 112e0SM 112e3EX
112ebXX 11300EX 11302SM 11304XX 1133bEX 1133dXX 1133eEX 1133fSM 11340EX 11341SM 11345XX 11347SM
11349XX 1134bSM 1134dEX 1134eXX 11357EX 11358XX 11362SM 11364XX 11366EX 1136dXX 11370EX 11375XX
113b8EX 113b9SM 113bbEX 113c1XX 113c2EX 113c3XX 113c5EX 113c6XX 113c7EX 113caSM 113cbXX 113ccSM
113ceEX 113d1PP 113d2EX 113d3XX 113e1EX 113e3XX 11435SM 11438EX 11440SM 11442EX 11445SM 11446EX
11447XX 1145eEX 1145fXX 114b0EX 114b1SM 114b3EX 114b9SM 114baEX 114bbSM 114bdEX 114beSM 114bfEX
114c1SM 114c2EX 114c4XX 115afEX 115b0SM 115b2EX 115b6XX 115b8SM 115bcEX 115beSM 115bfEX 115c1XX
115dcEX 115deXX 11630SM 11633EX 1163bSM 1163dEX 1163eSM 1163fEX 11641XX 116abEX 116acSM 116adEX
116aeSM 116b0EX 116b8XX 1171dEX 1171eSM 1171fEX 11720XX 11722EX 11726SM 11727EX 1172cXX 1182cSM
1182fEX 11838SM 11839EX 1183bXX 11930EX 11931SM 11936XX 11937SM 11939XX 1193bEX 1193fPP 11940SM
11941PP 11942SM 11943EX 11944XX 119d1SM 119d4EX 119d8XX 119daEX 119dcSM 119e0EX 119e1XX 119e4SM
119e5XX 11a01EX 11a0bXX 11a33EX 11a39SM 11a3aPP 11a3bEX 11a3fXX 11a47EX 11a48XX 11a51EX 11a57SM
11a59EX 11a5cXX 11a84PP 11a8aEX 11a97SM 11a98EX 11a9aXX 11c2fSM 11c30EX 11c37XX 11c38EX 11c3eSM
11c3fEX 11c40XX 11c92EX 11ca8XX 11ca9SM 11caaEX 11cb1SM 11cb2EX 11cb4SM 11cb5EX 11cb7XX 11d31EX
11d37XX 11d3aEX 11d3bXX 11d3cEX 11d3eXX 11d3fEX 11d46PP 11d47EX 11d48XX 11d8aSM 11d8fXX 11d90EX
11d92XX 11d93SM 11d95EX 11d96SM 11d97EX 11d98XX 11ef3EX 11ef5SM 11ef7XX 11f00EX 11f02PP 11f03SM
11f04XX 11f34SM 11f36EX 11f3bXX 11f3eSM 11f40EX 11f43XX 11f5aEX 11f5bXX 13430CN 13440EX 13441XX
13447EX 13456XX 1611eEX 1612aSM 1612dEX 16130XX 16af0EX 16af5XX 16b30EX 16b37XX 16d63V 16d64XX
16d67V 16d6bXX 16f4fEX 16f50XX 16f51SM 16f88XX 16f8fEX 16f93XX 16fe4EX 16fe5XX 16ff0EX 16ff2XX
1bc9dEX 1bc9fXX 1bca0CN 1bca4XX 1cf00EX 1cf2eXX 1cf30EX 1cf47XX 1d165EX 1d16aXX 1d16dEX 1d173CN
1d17bEX 1d183XX 1d185EX 1d18cXX 1d1aaEX 1d1aeXX 1d242EX 1d245XX 1da00EX 1da37XX 1da3bEX 1da6dXX
1da75EX 1da76XX 1da84EX 1da85XX 1da9bEX 1daa0XX 1daa1EX 1dab0XX 1e000EX 1e007XX 1e008EX 1e019XX
1e01bEX 1e022XX 1e023EX 1e025XX 1e026EX 1e02bXX 1e08fEX 1e090XX 1e130EX 1e137XX 1e2aeEX 1e2afXX
1e2ecEX 1e2f0XX 1e4ecEX 1e4f0XX 1e5eeEX 1e5f0XX 1e8d0EX 1e8d7XX 1e944EX 1e94bXX 1f1e6RI 1f200XX
1f3fbEX 1f400XX e0000CN e0020EX e0080CN e0100EX e01f0CN e1000XX"

/-- The word break class of every code point. -/
def wordBreaks : Partition := .ofText "
0XX aLF bNL dCR eXX 20WSegSpace 21XX 22DQ 23XX 27SQ 28XX 2cMN 2dXX 2eMB 2fXX 30NU 3aML 3bMN 3cXX
41LE 5bXX 5fEX 60XX 61LE 7bXX 85NL 86XX aaLE abXX adFO aeXX b5LE b6XX b7ML b8XX baLE bbXX c0LE
d7XX d8LE f7XX f8LE 2d8XX 2deLE 300Extend 370LE 375XX 376LE 378XX 37aLE 37eMN 37fLE 380XX 386LE
387ML 388LE 38bXX 38cLE 38dXX 38eLE 3a2XX 3a3LE 3f6XX 3f7LE 482XX 483Extend 48aLE 530XX 531LE
557XX 559LE 55dXX 55eLE 55fML 560LE 589MN 58aLE 58bXX 591Extend 5beXX 5bfExtend 5c0XX 5c1Extend
5c3XX 5c4Extend 5c6XX 5c7Extend 5c8XX 5d0HL 5ebXX 5efHL 5f3LE 5f4ML 5f5XX 600FO 606XX 60cMN 60eXX
610Extend 61bXX 61cFO 61dXX 620LE 64bExtend 660NU 66aXX 66bNU 66cMN 66dXX 66eLE 670Extend 671LE
6d4XX 6d5LE 6d6Extend 6ddFO 6deXX 6dfExtend 6e5LE 6e7Extend 6e9XX 6eaExtend 6eeLE 6f0NU 6faLE
6fdXX 6ffLE 700XX 70fFO 710LE 711Extend 712LE 730Extend 74bXX 74dLE 7a6Extend 7b1LE 7b2XX 7c0NU
7caLE 7ebExtend 7f4LE 7f6XX 7f8MN 7f9XX 7faLE 7fbXX 7fdExtend 7feXX 800LE 816Extend 81aLE
81bExtend 824LE 825Extend 828LE 829Extend 82eXX 840LE 859Extend 85cXX 860LE 86bXX 870LE 888XX
889LE 88fXX 890FO 892XX 897Extend 8a0LE 8caExtend 8e2FO 8e3Extend 904LE 93aExtend 93dLE 93eExtend
950LE 951Extend 958LE 962Extend 964XX 966NU 970XX 971LE 981Extend 984XX 985LE 98dXX 98fLE 991XX
993LE 9a9XX 9aaLE 9b1XX 9b2LE 9b3XX 9b6LE 9baXX 9bcExtend 9bdLE 9beExtend 9c5XX 9c7Extend 9c9XX
9cbExtend 9ceLE 9cfXX 9d7Extend 9d8XX 9dcLE 9deXX 9dfLE 9e2Extend 9e4XX 9e6NU 9f0LE 9f2XX 9fcLE
9fdXX 9feExtend 9ffXX a01Extend a04XX a05LE a0bXX a0fLE a11XX a13LE a29XX a2aLE a31XX a32LE a34XX
a35LE a37XX a38LE a3aXX a3cExtend a3dXX a3eExtend a43XX a47Extend a49XX a4bExtend a4eXX a51Extend
a52XX a59LE a5dXX a5eLE a5fXX a66NU a70Extend a72LE a75Extend a76XX a81Extend a84XX a85LE a8eXX
a8fLE a92XX a93LE aa9XX aaaLE ab1XX ab2LE ab4XX ab5LE abaXX abcExtend abdLE abeExtend ac6XX
ac7Extend acaXX acbExtend aceXX ad0LE ad1XX ae0LE ae2Extend ae4XX ae6NU af0XX af9LE afaExtend
b00XX b01Extend b04XX b05LE b0dXX b0fLE b11XX b13LE b29XX b2aLE b31XX b32LE b34XX b35LE b3aXX
b3cExtend b3dLE b3eExtend b45XX b47Extend b49XX b4bExtend b4eXX b55Extend b58XX b5cLE b5eXX b5fLE
b62Extend b64XX b66NU b70XX b71LE b72XX b82Extend b83LE b84XX b85LE b8bXX b8eLE b91XX b92LE b96XX
b99LE b9bXX b9cLE b9dXX b9eLE ba0XX ba3LE ba5XX ba8LE babXX baeLE bbaXX bbeExtend bc3XX bc6Extend
bc9XX bcaExtend bceXX bd0LE bd1XX bd7Extend bd8XX be6NU bf0XX c00Extend c05LE c0dXX c0eLE c11XX
c12LE c29XX c2aLE c3aXX c3cExtend c3dLE c3eExtend c45XX c46Extend c49XX c4aExtend c4eXX c55Extend
c57XX c58LE c5bXX c5dLE c5eXX c60LE c62Extend c64XX c66NU c70XX c80LE c81Extend c84XX c85LE c8dXX
c8eLE c91XX c92LE ca9XX caaLE cb4XX cb5LE cbaXX cbcExtend cbdLE cbeExtend cc5XX cc6Extend cc9XX
ccaExtend cceXX cd5Extend cd7XX cddLE cdfXX ce0LE ce2Extend ce4XX ce6NU cf0XX cf1LE cf3Extend
cf4XX d00Extend d04LE d0dXX d0eLE d11XX d12LE d3bExtend d3dLE d3eExtend d45XX d46Extend d49XX
d4aExtend d4eLE d4fXX d54LE d57Extend d58XX d5fLE d62Extend d64XX d66NU d70XX d7aLE d80XX
d81Extend d84XX d85LE d97XX d9aLE db2XX db3LE dbcXX dbdLE dbeXX dc0LE dc7XX dcaExtend dcbXX
dcfExtend dd5XX dd6Extend dd7XX dd8Extend de0XX de6NU df0XX df2Extend df4XX e31Extend e32XX
e34Extend e3bXX e47Extend e4fXX e50NU e5aXX eb1Extend eb2XX eb4Extend ebdXX ec8Extend ecfXX ed0NU
edaXX f00LE f01XX f18Extend f1aXX f20NU f2aXX f35Extend f36XX f37Extend f38XX f39Extend f3aXX
f3eExtend f40LE f48XX f49LE f6dXX f71Extend f85XX f86Extend f88LE f8dExtend f98XX f99Extend fbdXX
fc6Extend fc7XX 102bExtend 103fXX 1040NU 104aXX 1056Extend 105aXX 105eExtend 1061XX 1062Extend
1065XX 1067Extend 106eXX 1071Extend 1075XX 1082Extend 108eXX 108fExtend 1090NU 109aExtend 109eXX
10a0LE 10c6XX 10c7LE 10c8XX 10cdLE 10ceXX 10d0LE 10fbXX 10fcLE 1249XX 124aLE 124eXX 1250LE 1257XX
1258LE 1259XX 125aLE 125eXX 1260LE 1289XX 128aLE 128eXX 1290LE 12b1XX 12b2LE 12b6XX 12b8LE 12bfXX
12c0LE 12c1XX 12c2LE 12c6XX 12c8LE 12d7XX 12d8LE 1311XX 1312LE 1316XX 1318LE 135bXX 135dExtend
1360XX 1380LE 1390XX 13a0LE 13f6XX 13f8LE 13feXX 1401LE 166dXX 166fLE 1680WSegSpace 1681LE 169bXX
16a0LE 16ebXX 16eeLE 16f9XX 1700LE 1712Extend 1716XX 171fLE 1732Extend 1735XX 1740LE 1752Extend
1754XX 1760LE 176dXX 176eLE 1771XX 1772Extend 1774XX 17b4Extend 17d4XX 17ddExtend 17deXX 17e0NU
17eaXX 180bExtend 180eFO 180fExtend 1810NU 181aXX 1820LE 1879XX 1880LE 1885Extend 1887LE
18a9Extend 18aaLE 18abXX 18b0LE 18f6XX 1900LE 191fXX 1920Extend 192cXX 1930Extend 193cXX 1946NU
1950XX 19d0NU 19daXX 1a00LE 1a17Extend 1a1cXX 1a55Extend 1a5fXX 1a60Extend 1a7dXX 1a7fExtend
1a80NU 1a8aXX 1a90NU 1a9aXX 1ab0Extend 1acfXX 1b00Extend 1b05LE 1b34Extend 1b45LE 1b4dXX 1b50NU
1b5aXX 1b6bExtend 1b74XX 1b80Extend 1b83LE 1ba1Extend 1baeLE 1bb0NU 1bbaLE 1be6Extend 1bf4XX
1c00LE 1c24Extend 1c38XX 1c40NU 1c4aXX 1c4dLE 1c50NU 1c5aLE 1c7eXX 1c80LE 1c8bXX 1c90LE 1cbbXX
1cbdLE 1cc0XX 1cd0Extend 1cd3XX 1cd4Extend 1ce9LE 1cedExtend 1ceeLE 1cf4Extend 1cf5LE 1cf7Extend
1cfaLE 1cfbXX 1d00LE 1dc0Extend 1e00LE 1f16XX 1f18LE 1f1eXX 1f20LE 1f46XX 1f48LE 1f4eXX 1f50LE
1f58XX 1f59LE 1f5aXX 1f5bLE 1f5cXX 1f5dLE 1f5eXX 1f5fLE 1f7eXX 1f80LE 1fb5XX 1fb6LE 1fbdXX 1fbeLE
1fbfXX 1fc2LE 1fc5XX 1fc6LE 1fcdXX 1fd0LE 1fd4XX 1fd6LE 1fdcXX 1fe0LE 1fedXX 1ff2LE 1ff5XX 1ff6LE
1ffdXX 2000WSegSpace 2007XX 2008WSegSpace 200bXX 200cExtend 200dZWJ 200eFO 2010XX 2018MB 201aXX
2024MB 2025XX 2027ML 2028NL 202aFO 202fEX 2030XX 203fEX 2041XX 2044MN 2045XX 2054EX 2055XX
205fWSegSpace 2060FO 2065XX 2066FO 2070XX 2071LE 2072XX 207fLE 2080XX 2090LE 209dXX 20d0Extend
20f1XX 2102LE 2103XX 2107LE 2108XX 210aLE 2114XX 2115LE 2116XX 2119LE 211eXX 2124LE 2125XX 2126LE
2127XX 2128LE 2129XX 212aLE 212eXX 212fLE 213aXX 213cLE 2140XX 2145LE 214aXX 214eLE 214fXX 2160LE
2189XX 24b6LE 24eaXX 2c00LE 2ce5XX 2cebLE 2cefExtend 2cf2LE 2cf4XX 2d00LE 2d26XX 2d27LE 2d28XX
2d2dLE 2d2eXX 2d30LE 2d68XX 2d6fLE 2d70XX 2d7fExtend 2d80LE 2d97XX 2da0LE 2da7XX 2da8LE 2dafXX
2db0LE 2db7XX 2db8LE 2dbfXX 2dc0LE 2dc7XX 2dc8LE 2dcfXX 2dd0LE 2dd7XX 2dd8LE 2ddfXX 2de0Extend
2e00XX 2e2fLE 2e30XX 3000WSegSpace 3001XX 3005LE 3006XX 302aExtend 3030XX 3031KA 3036XX 303bLE
303dXX 3099Extend 309bKA 309dXX 30a0KA 30fbXX 30fcKA 3100XX 3105LE 3130XX 3131LE 318fXX 31a0LE
31c0XX 31f0KA 3200XX 32d0KA 32ffXX 3300KA 3358XX a000LE a48dXX a4d0LE a4feXX a500LE a60dXX a610LE
a620NU a62aLE a62cXX a640LE a66fExtend a673XX a674Extend a67eXX a67fLE a69eExtend a6a0LE
a6f0Extend a6f2XX a708LE a7ceXX a7d0LE a7d2XX a7d3LE a7d4XX a7d5LE a7ddXX a7f2LE a802Extend
a803LE a806Extend a807LE a80bExtend a80cLE a823Extend a828XX a82cExtend a82dXX a840LE a874XX
a880Extend a882LE a8b4Extend a8c6XX a8d0NU a8daXX a8e0Extend a8f2LE a8f8XX a8fbLE a8fcXX a8fdLE
a8ffExtend a900NU a90aLE a926Extend a92eXX a930LE a947Extend a954XX a960LE a97dXX a980Extend
a984LE a9b3Extend a9c1XX a9cfLE a9d0NU a9daXX a9e5Extend a9e6XX a9f0NU a9faXX aa00LE aa29Extend
aa37XX aa40LE aa43Extend aa44LE aa4cExtend aa4eXX aa50NU aa5aXX aa7bExtend aa7eXX aab0Extend
aab1XX aab2Extend aab5XX aab7Extend aab9XX aabeExtend aac0XX aac1Extend aac2XX aae0LE aaebExtend
aaf0XX aaf2LE aaf5Extend aaf7XX ab01LE ab07XX ab09LE ab0fXX ab11LE ab17XX ab20LE ab27XX ab28LE
ab2fXX ab30LE ab6aXX ab70LE abe3Extend abebXX abecExtend abeeXX abf0NU abfaXX ac00LE d7a4XX
d7b0LE d7c7XX d7cbLE d7fcXX fb00LE fb07XX fb13LE fb18XX fb1dHL fb1eExtend fb1fHL fb29XX fb2aHL
fb37XX fb38HL fb3dXX fb3eHL fb3fXX fb40HL fb42XX fb43HL fb45XX fb46HL fb50LE fbb2XX fbd3LE fd3eXX
fd50LE fd90XX fd92LE fdc8XX fdf0LE fdfcXX fe00Extend fe10MN fe11XX fe13ML fe14MN fe15XX
fe20Extend fe30XX fe33EX fe35XX fe4dEX fe50MN fe51XX fe52MB fe53XX fe54MN fe55ML fe56XX fe70LE
fe75XX fe76LE fefdXX feffFO ff00XX ff07MB ff08XX ff0cMN ff0dXX ff0eMB ff0fXX ff10NU ff1aML ff1bMN
ff1cXX ff21LE ff3bXX ff3fEX ff40XX ff41LE ff5bXX ff66KA ff9eExtend ffa0LE ffbfXX ffc2LE ffc8XX
ffcaLE ffd0XX ffd2LE ffd8XX ffdaLE ffddXX fff9FO fffcXX 10000LE 1000cXX 1000dLE 10027XX 10028LE
1003bXX 1003cLE 1003eXX 1003fLE 1004eXX 10050LE 1005eXX 10080LE 100fbXX 10140LE 10175XX
101fdExtend 101feXX 10280LE 1029dXX 102a0LE 102d1XX 102e0Extend 102e1XX 10300LE 10320XX 1032dLE
1034bXX 10350LE 10376Extend 1037bXX 10380LE 1039eXX 103a0LE 103c4XX 103c8LE 103d0XX 103d1LE
103d6XX 10400LE 1049eXX 104a0NU 104aaXX 104b0LE 104d4XX 104d8LE 104fcXX 10500LE 10528XX 10530LE
10564XX 10570LE 1057bXX 1057cLE 1058bXX 1058cLE 10593XX 10594LE 10596XX 10597LE 105a2XX 105a3LE
105b2XX 105b3LE 105baXX 105bbLE 105bdXX 105c0LE 105f4XX 10600LE 10737XX 10740LE 10756XX 10760LE
10768XX 10780LE 10786XX 10787LE 107b1XX 107b2LE 107bbXX 10800LE 10806XX 10808LE 10809XX 1080aLE
10836XX 10837LE 10839XX 1083cLE 1083dXX 1083fLE 10856XX 10860LE 10877XX 10880LE 1089fXX 108e0LE
108f3XX 108f4LE 108f6XX 10900LE 10916XX 10920LE 1093aXX 10980LE 109b8XX 109beLE 109c0XX 10a00LE
10a01Extend 10a04XX 10a05Extend 10a07XX 10a0cExtend 10a10LE 10a14XX 10a15LE 10a18XX 10a19LE
10a36XX 10a38Extend 10a3bXX 10a3fExtend 10a40XX 10a60LE 10a7dXX 10a80LE 10a9dXX 10ac0LE 10ac8XX
10ac9LE 10ae5Extend 10ae7XX 10b00LE 10b36XX 10b40LE 10b56XX 10b60LE 10b73XX 10b80LE 10b92XX
10c00LE 10c49XX 10c80LE 10cb3XX 10cc0LE 10cf3XX 10d00LE 10d24Extend 10d28XX 10d30NU 10d3aXX
10d40NU 10d4aLE 10d66XX 10d69Extend 10d6eXX 10d6fLE 10d86XX 10e80LE 10eaaXX 10eabExtend 10eadXX
10eb0LE 10eb2XX 10ec2LE 10ec5XX 10efcExtend 10f00LE 10f1dXX 10f27LE 10f28XX 10f30LE 10f46Extend
10f51XX 10f70LE 10f82Extend 10f86XX 10fb0LE 10fc5XX 10fe0LE 10ff7XX 11000Extend 11003LE
11038Extend 11047XX 11066NU 11070Extend 11071LE 11073Extend 11075LE 11076XX 1107fExtend 11083LE
110b0Extend 110bbXX 110bdFO 110beXX 110c2Extend 110c3XX 110cdFO 110ceXX 110d0LE 110e9XX 110f0NU
110faXX 11100Extend 11103LE 11127Extend 11135XX 11136NU 11140XX 11144LE 11145Extend 11147LE
11148XX 11150LE 11173Extend 11174XX 11176LE 11177XX 11180Extend 11183LE 111b3Extend 111c1LE
111c5XX 111c9Extend 111cdXX 111ceExtend 111d0NU 111daLE 111dbXX 111dcLE 111ddXX 11200LE 11212XX
11213LE 1122cExtend 11238XX 1123eExtend 1123fLE 11241Extend 11242XX 11280LE 11287XX 11288LE
11289XX 1128aLE 1128eXX 1128fLE 1129eXX 1129fLE 112a9XX 112b0LE 112dfExtend 112ebXX 112f0NU
112faXX 11300Extend 11304XX 11305LE 1130dXX 1130fLE 11311XX 11313LE 11329XX 1132aLE 11331XX
11332LE 11334XX 11335LE 1133aXX 1133bExtend 1133dLE 1133eExtend 11345XX 11347Extend 11349XX
1134bExtend 1134eXX 11350LE 11351XX 11357Extend 11358XX 1135dLE 11362Extend 11364XX 11366Extend
1136dXX 11370Extend 11375XX 11380LE 1138aXX 1138bLE 1138cXX 1138eLE 1138fXX 11390LE 113b6XX
113b7LE 113b8Extend 113c1XX 113c2Extend 113c3XX 113c5Extend 113c6XX 113c7Extend 113cbXX
113ccExtend 113d1LE 113d2Extend 113d3LE 113d4XX 113e1Extend 113e3XX 11400LE 11435Extend 11447LE
1144bXX 11450NU 1145aXX 1145eExtend 1145fLE 11462XX 11480LE 114b0Extend 114c4LE 114c6XX 114c7LE
114c8XX 114d0NU 114daXX 11580LE 115afExtend 115b6XX 115b8Extend 115c1XX 115d8LE 115dcExtend
115deXX 11600LE 11630Extend 11641XX 11644LE 11645XX 11650NU 1165aXX 11680LE 116abExtend 116b8LE
116b9XX 116c0NU 116caXX 116d0NU 116e4XX 1171dExtend 1172cXX 11730NU 1173aXX 11800LE 1182cExtend
1183bXX 118a0LE 118e0NU 118eaXX 118ffLE 11907XX 11909LE 1190aXX 1190cLE 11914XX 11915LE 11917XX
11918LE 11930Extend 11936XX 11937Extend 11939XX 1193bExtend 1193fLE 11940Extend 11941LE
11942Extend 11944XX 11950NU 1195aXX 119a0LE 119a8XX 119aaLE 119d1Extend 119d8XX 119daExtend
119e1LE 119e2XX 119e3LE 119e4Extend 119e5XX 11a00LE 11a01Extend 11a0bLE 11a33Extend 11a3aLE
11a3bExtend 11a3fXX 11a47Extend 11a48XX 11a50LE 11a51Extend 11a5cLE 11a8aExtend 11a9aXX 11a9dLE
11a9eXX 11ab0LE 11af9XX 11bc0LE 11be1XX 11bf0NU 11bfaXX 11c00LE 11c09XX 11c0aLE 11c2fExtend
11c37XX 11c38Extend 11c40LE 11c41XX 11c50NU 11c5aXX 11c72LE 11c90XX 11c92Extend 11ca8XX
11ca9Extend 11cb7XX 11d00LE 11d07XX 11d08LE 11d0aXX 11d0bLE 11d31Extend 11d37XX 11d3aExtend
11d3bXX 11d3cExtend 11d3eXX 11d3fExtend 11d46LE 11d47Extend 11d48XX 11d50NU 11d5aXX 11d60LE
11d66XX 11d67LE 11d69XX 11d6aLE 11d8aExtend 11d8fXX 11d90Extend 11d92XX 11d93Extend 11d98LE
11d99XX 11da0NU 11daaXX 11ee0LE 11ef3Extend 11ef7XX 11f00Extend 11f02LE 11f03Extend 11f04LE
11f11XX 11f12LE 11f34Extend 11f3bXX 11f3eExtend 11f43XX 11f50NU 11f5aExtend 11f5bXX 11fb0LE
11fb1XX 12000LE 1239aXX 12400LE 1246fXX 12480LE 12544XX 12f90LE 12ff1XX 13000LE 13430FO
13440Extend 13441LE 13447Extend 13456XX 13460LE 143fbXX 14400LE 14647XX 16100LE 1611eExtend
16130NU 1613aXX 16800LE 16a39XX 16a40LE 16a5fXX 16a60NU 16a6aXX 16a70LE 16abfXX 16ac0NU 16acaXX
16ad0LE 16aeeXX 16af0Extend 16af5XX 16b00LE 16b30Extend 16b37XX 16b40LE 16b44XX 16b50NU 16b5aXX
16b63LE 16b78XX 16b7dLE 16b90XX 16d40LE 16d6dXX 16d70NU 16d7aXX 16e40LE 16e80XX 16f00LE 16f4bXX
16f4fExtend 16f50LE 16f51Extend 16f88XX 16f8fExtend 16f93LE 16fa0XX 16fe0LE 16fe2XX 16fe3LE
16fe4Extend 16fe5XX 16ff0Extend 16ff2XX 1aff0KA 1aff4XX 1aff5KA 1affcXX 1affdKA 1afffXX 1b000KA
1b001XX 1b120KA 1b123XX 1b155KA 1b156XX 1b164KA 1b168XX 1bc00LE 1bc6bXX 1bc70LE 1bc7dXX 1bc80LE
1bc89XX 1bc90LE 1bc9aXX 1bc9dExtend 1bc9fXX 1bca0FO 1bca4XX 1ccf0NU 1ccfaXX 1cf00Extend 1cf2eXX
1cf30Extend 1cf47XX 1d165Extend 1d16aXX 1d16dExtend 1d173FO 1d17bExtend 1d183XX 1d185Extend
1d18cXX 1d1aaExtend 1d1aeXX 1d242Extend 1d245XX 1d400LE 1d455XX 1d456LE 1d49dXX 1d49eLE 1d4a0XX
1d4a2LE 1d4a3XX 1d4a5LE 1d4a7XX 1d4a9LE 1d4adXX 1d4aeLE 1d4baXX 1d4bbLE 1d4bcXX 1d4bdLE 1d4c4XX
1d4c5LE 1d506XX 1d507LE 1d50bXX 1d50dLE 1d515XX 1d516LE 1d51dXX 1d51eLE 1d53aXX 1d53bLE 1d53fXX
1d540LE 1d545XX 1d546LE 1d547XX 1d54aLE 1d551XX 1d552LE 1d6a6XX 1d6a8LE 1d6c1XX 1d6c2LE 1d6dbXX
1d6dcLE 1d6fbXX 1d6fcLE 1d715XX 1d716LE 1d735XX 1d736LE 1d74fXX 1d750LE 1d76fXX 1d770LE 1d789XX
1d78aLE 1d7a9XX 1d7aaLE 1d7c3XX 1d7c4LE 1d7ccXX 1d7ceNU 1d800XX 1da00Extend 1da37XX 1da3bExtend
1da6dXX 1da75Extend 1da76XX 1da84Extend 1da85XX 1da9bExtend 1daa0XX 1daa1Extend 1dab0XX 1df00LE
1df1fXX 1df25LE 1df2bXX 1e000Extend 1e007XX 1e008Extend 1e019XX 1e01bExtend 1e022XX 1e023Extend
1e025XX 1e026Extend 1e02bXX 1e030LE 1e06eXX 1e08fExtend 1e090XX 1e100LE 1e12dXX 1e130Extend
1e137LE 1e13eXX 1e140NU 1e14aXX 1e14eLE 1e14fXX 1e290LE 1e2aeExtend 1e2afXX 1e2c0LE 1e2ecExtend
1e2f0NU 1e2faXX 1e4d0LE 1e4ecExtend 1e4f0NU 1e4faXX 1e5d0LE 1e5eeExtend 1e5f0LE 1e5f1NU 1e5fbXX
1e7e0LE 1e7e7XX 1e7e8LE 1e7ecXX 1e7edLE 1e7efXX 1e7f0LE 1e7ffXX 1e800LE 1e8c5XX 1e8d0Extend
1e8d7XX 1e900LE 1e944Extend 1e94bLE 1e94cXX 1e950NU 1e95aXX 1ee00LE 1ee04XX 1ee05LE 1ee20XX
1ee21LE 1ee23XX 1ee24LE 1ee25XX 1ee27LE 1ee28XX 1ee29LE 1ee33XX 1ee34LE 1ee38XX 1ee39LE 1ee3aXX
1ee3bLE 1ee3cXX 1ee42LE 1ee43XX 1ee47LE 1ee48XX 1ee49LE 1ee4aXX 1ee4bLE 1ee4cXX 1ee4dLE 1ee50XX
1ee51LE 1ee53XX 1ee54LE 1ee55XX 1ee57LE 1ee58XX 1ee59LE 1ee5aXX 1ee5bLE 1ee5cXX 1ee5dLE 1ee5eXX
1ee5fLE 1ee60XX 1ee61LE 1ee63XX 1ee64LE 1ee65XX 1ee67LE 1ee6bXX 1ee6cLE 1ee73XX 1ee74LE 1ee78XX
1ee79LE 1ee7dXX 1ee7eLE 1ee7fXX 1ee80LE 1ee8aXX 1ee8bLE 1ee9cXX 1eea1LE 1eea4XX 1eea5LE 1eeaaXX
1eeabLE 1eebcXX 1f130LE 1f14aXX 1f150LE 1f16aXX 1f170LE 1f18aXX 1f1e6RI 1f200XX 1f3fbExtend
1f400XX 1fbf0NU 1fbfaXX e0001FO e0002XX e0020Extend e0080XX e0100Extend e01f0XX"

/-- The sentence break class of every code point. -/
def sentenceBreaks : Partition := .ofText "
0XX 9SP aLF bSP dCR eXX 20SP 21ST 22CL 23XX 27CL 2aXX 2cSC 2eAT 2fXX 30NU 3aSC 3bXX 3fST 40XX
41UP 5bCL 5cXX 5dCL 5eXX 61LO 7bCL 7cXX 7dCL 7eXX 85SE 86XX a0SP a1XX aaLO abCL acXX adFO aeXX
b5LO b6XX baLO bbCL bcXX c0UP d7XX d8UP dfLO f7XX f8LO 100UP 101LO 102UP 103LO 104UP 105LO 106UP
107LO 108UP 109LO 10aUP 10bLO 10cUP 10dLO 10eUP 10fLO 110UP 111LO 112UP 113LO 114UP 115LO 116UP
117LO 118UP 119LO 11aUP 11bLO 11cUP 11dLO 11eUP 11fLO 120UP 121LO 122UP 123LO 124UP 125LO 126UP
127LO 128UP 129LO 12aUP 12bLO 12cUP 12dLO 12eUP 12fLO 130UP 131LO 132UP 133LO 134UP 135LO 136UP
137LO 139UP 13aLO 13bUP 13cLO 13dUP 13eLO 13fUP 140LO 141UP 142LO 143UP 144LO 145UP 146LO 147UP
148LO 14aUP 14bLO 14cUP 14dLO 14eUP 14fLO 150UP 151LO 152UP 153LO 154UP 155LO 156UP 157LO 158UP
159LO 15aUP 15bLO 15cUP 15dLO 15eUP 15fLO 160UP 161LO 162UP 163LO 164UP 165LO 166UP 167LO 168UP
169LO 16aUP 16bLO 16cUP 16dLO 16eUP 16fLO 170UP 171LO 172UP 173LO 174UP 175LO 176UP 177LO 178UP
17aLO 17bUP 17cLO 17dUP 17eLO 181UP 183LO 184UP 185LO 186UP 188LO 189UP 18cLO 18eUP 192LO 193UP
195LO 196UP 199LO 19cUP 19eLO 19fUP 1a1LO 1a2UP 1a3LO 1a4UP 1a5LO 1a6UP 1a8LO 1a9UP 1aaLO 1acUP
1adLO 1aeUP 1b0LO 1b1UP 1b4LO 1b5UP 1b6LO 1b7UP 1b9LO 1bbLE 1bcUP 1bdLO 1c0LE 1c4UP 1c6LO 1c7UP
1c9LO 1caUP 1ccLO 1cdUP 1ceLO 1cfUP 1d0LO 1d1UP 1d2LO 1d3UP 1d4LO 1d5UP 1d6LO 1d7UP 1d8LO 1d9UP
1daLO 1dbUP 1dcLO 1deUP 1dfLO 1e0UP 1e1LO 1e2UP 1e3LO 1e4UP 1e5LO 1e6UP 1e7LO 1e8UP 1e9LO 1eaUP
1ebLO 1ecUP 1edLO 1eeUP 1efLO 1f1UP 1f3LO 1f4UP 1f5LO 1f6UP 1f9LO 1faUP 1fbLO 1fcUP 1fdLO 1feUP
1ffLO 200UP 201LO 202UP 203LO 204UP 205LO 206UP 207LO 208UP 209LO 20aUP 20bLO 20cUP 20dLO 20eUP
20fLO 210UP 211LO 212UP 213LO 214UP 215LO 216UP 217LO 218UP 219LO 21aUP 21bLO 21cUP 21dLO 21eUP
21fLO 220UP 221LO 222UP 223LO 224UP 225LO 226UP 227LO 228UP 229LO 22aUP 22bLO 22cUP 22dLO 22eUP
22fLO 230UP 231LO 232UP 233LO 23aUP 23cLO 23dUP 23fLO 241UP 242LO 243UP 247LO 248UP 249LO 24aUP
24bLO 24cUP 24dLO 24eUP 24fLO 294LE 295LO 2b9LE 2c0LO 2c2XX 2c6LE 2d2XX 2e0LO 2e5XX 2ecLE 2edXX
2eeLE 2efXX 300EX 370UP 371LO 372UP 373LO 374LE 375XX 376UP 377LO 378XX 37aLO 37eXX 37fUP 380XX
386UP 387XX 388UP 38bXX 38cUP 38dXX 38eUP 390LO 391UP 3a2XX 3a3UP 3acLO 3cfUP 3d0LO 3d2UP 3d5LO
3d8UP 3d9LO 3daUP 3dbLO 3dcUP 3ddLO 3deUP 3dfLO 3e0UP 3e1LO 3e2UP 3e3LO 3e4UP 3e5LO 3e6UP 3e7LO
3e8UP 3e9LO 3eaUP 3ebLO 3ecUP 3edLO 3eeUP 3efLO 3f4UP 3f5LO 3f6XX 3f7UP 3f8LO 3f9UP 3fbLO 3fdUP
430LO 460UP 461LO 462UP 463LO 464UP 465LO 466UP 467LO 468UP 469LO 46aUP 46bLO 46cUP 46dLO 46eUP
46fLO 470UP 471LO 472UP 473LO 474UP 475LO 476UP 477LO 478UP 479LO 47aUP 47bLO 47cUP 47dLO 47eUP
47fLO 480UP 481LO 482XX 483EX 48aUP 48bLO 48cUP 48dLO 48eUP 48fLO 490UP 491LO 492UP 493LO 494UP
495LO 496UP 497LO 498UP 499LO 49aUP 49bLO 49cUP 49dLO 49eUP 49fLO 4a0UP 4a1LO 4a2UP 4a3LO 4a4UP
4a5LO 4a6UP 4a7LO 4a8UP 4a9LO 4aaUP 4abLO 4acUP 4adLO 4aeUP 4afLO 4b0UP 4b1LO 4b2UP 4b3LO 4b4UP
4b5LO 4b6UP 4b7LO 4b8UP 4b9LO 4baUP 4bbLO 4bcUP 4bdLO 4beUP 4bfLO 4c0UP 4c2LO 4c3UP 4c4LO 4c5UP
4c6LO 4c7UP 4c8LO 4c9UP 4caLO 4cbUP 4ccLO 4cdUP 4ceLO 4d0UP 4d1LO 4d2UP 4d3LO 4d4UP 4d5LO 4d6UP
4d7LO 4d8UP 4d9LO 4daUP 4dbLO 4dcUP 4ddLO 4deUP 4dfLO 4e0UP 4e1LO 4e2UP 4e3LO 4e4UP 4e5LO 4e6UP
4e7LO 4e8UP 4e9LO 4eaUP 4ebLO 4ecUP 4edLO 4eeUP 4efLO 4f0UP 4f1LO 4f2UP 4f3LO 4f4UP 4f5LO 4f6UP
4f7LO 4f8UP 4f9LO 4faUP 4fbLO 4fcUP 4fdLO 4feUP 4ffLO 500UP 501LO 502UP 503LO 504UP 505LO 506UP
507LO 508UP 509LO 50aUP 50bLO 50cUP 50dLO 50eUP 50fLO 510UP 511LO 512UP 513LO 514UP 515LO 516UP
517LO 518UP 519LO 51aUP 51bLO 51cUP 51dLO 51eUP 51fLO 520UP 521LO 522UP 523LO 524UP 525LO 526UP
527LO 528UP 529LO 52aUP 52bLO 52cUP 52dLO 52eUP 52fLO 530XX 531UP 557XX 559LE 55aXX 55dSC 55eXX
560LO 589ST 58aXX 591EX 5beXX 5bfEX 5c0XX 5c1EX 5c3XX 5c4EX 5c6XX 5c7EX 5c8XX 5d0LE 5ebXX 5efLE
5f4XX 600FO 606XX 60cSC 60eXX 610EX 61bXX 61cFO 61dST 620LE 64bEX 660NU 66aXX 66bNU 66dXX 66eLE
670EX 671LE 6d4ST 6d5LE 6d6EX 6ddFO 6deXX 6dfEX 6e5LE 6e7EX 6e9XX 6eaEX 6eeLE 6f0NU 6faLE 6fdXX
6ffLE 700ST 703XX 70fFO 710LE 711EX 712LE 730EX 74bXX 74dLE 7a6EX 7b1LE 7b2XX 7c0NU 7caLE 7ebEX
7f4LE 7f6XX 7f8SC 7f9ST 7faLE 7fbXX 7fdEX 7feXX 800LE 816EX 81aLE 81bEX 824LE 825EX 828LE 829EX
82eXX 837ST 838XX 839ST 83aXX 83dST 83fXX 840LE 859EX 85cXX 860LE 86bXX 870LE 888XX 889LE 88fXX
890FO 892XX 897EX 8a0LE 8caEX 8e2FO 8e3EX 904LE 93aEX 93dLE 93eEX 950LE 951EX 958LE 962EX 964ST
966NU 970XX 971LE 981EX 984XX 985LE 98dXX 98fLE 991XX 993LE 9a9XX 9aaLE 9b1XX 9b2LE 9b3XX 9b6LE
9baXX 9bcEX 9bdLE 9beEX 9c5XX 9c7EX 9c9XX 9cbEX 9ceLE 9cfXX 9d7EX 9d8XX 9dcLE 9deXX 9dfLE 9e2EX
9e4XX 9e6NU 9f0LE 9f2XX 9fcLE 9fdXX 9feEX 9ffXX a01EX a04XX a05LE a0bXX a0fLE a11XX a13LE a29XX
a2aLE a31XX a32LE a34XX a35LE a37XX a38LE a3aXX a3cEX a3dXX a3eEX a43XX a47EX a49XX a4bEX a4eXX
a51EX a52XX a59LE a5dXX a5eLE a5fXX a66NU a70EX a72LE a75EX a76XX a81EX a84XX a85LE a8eXX a8fLE
a92XX a93LE aa9XX aaaLE ab1XX ab2LE ab4XX ab5LE abaXX abcEX abdLE abeEX ac6XX ac7EX acaXX acbEX
aceXX ad0LE ad1XX ae0LE ae2EX ae4XX ae6NU af0XX af9LE afaEX b00XX b01EX b04XX b05LE b0dXX b0fLE
b11XX b13LE b29XX b2aLE b31XX b32LE b34XX b35LE b3aXX b3cEX b3dLE b3eEX b45XX b47EX b49XX b4bEX
b4eXX b55EX b58XX b5cLE b5eXX b5fLE b62EX b64XX b66NU b70XX b71LE b72XX b82EX b83LE b84XX b85LE
b8bXX b8eLE b91XX b92LE b96XX b99LE b9bXX b9cLE b9dXX b9eLE ba0XX ba3LE ba5XX ba8LE babXX baeLE
bbaXX bbeEX bc3XX bc6EX bc9XX bcaEX bceXX bd0LE bd1XX bd7EX bd8XX be6NU bf0XX c00EX c05LE c0dXX
c0eLE c11XX c12LE c29XX c2aLE c3aXX c3cEX c3dLE c3eEX c45XX c46EX c49XX c4aEX c4eXX c55EX c57XX
c58LE c5bXX c5dLE c5eXX c60LE c62EX c64XX c66NU c70XX c80LE c81EX c84XX c85LE c8dXX c8eLE c91XX
c92LE ca9XX caaLE cb4XX cb5LE cbaXX cbcEX cbdLE cbeEX cc5XX cc6EX cc9XX ccaEX cceXX cd5EX cd7XX
cddLE cdfXX ce0LE ce2EX ce4XX ce6NU cf0XX cf1LE cf3EX cf4XX d00EX d04LE d0dXX d0eLE d11XX d12LE
d3bEX d3dLE d3eEX d45XX d46EX d49XX d4aEX d4eLE d4fXX d54LE d57EX d58XX d5fLE d62EX d64XX d66NU
d70XX d7aLE d80XX d81EX d84XX d85LE d97XX d9aLE db2XX db3LE dbcXX dbdLE dbeXX dc0LE dc7XX dcaEX
dcbXX dcfEX dd5XX dd6EX dd7XX dd8EX de0XX de6NU df0XX df2EX df4XX e01LE e31EX e32LE e34EX e3bXX
e40LE e47EX e4fXX e50NU e5aXX e81LE e83XX e84LE e85XX e86LE e8bXX e8cLE ea4XX ea5LE ea6XX ea7LE
eb1EX eb2LE eb4EX ebdLE ebeXX ec0LE ec5XX ec6LE ec7XX ec8EX ecfXX ed0NU edaXX edcLE ee0XX f00LE
f01XX f18EX f1aXX f20NU f2aXX f35EX f36XX f37EX f38XX f39EX f3aCL f3eEX f40LE f48XX f49LE f6dXX
f71EX f85XX f86EX f88LE f8dEX f98XX f99EX fbdXX fc6EX fc7XX 1000LE 102bEX 103fLE 1040NU 104aST
104cXX 1050LE 1056EX 105aLE 105eEX 1061LE 1062EX 1065LE 1067EX 106eLE 1071EX 1075LE 1082EX 108eLE
108fEX 1090NU 109aEX 109eXX 10a0UP 10c6XX 10c7UP 10c8XX 10cdUP 10ceXX 10d0LE 10fbXX 10fcLO 10fdLE
1249XX 124aLE 124eXX 1250LE 1257XX 1258LE 1259XX 125aLE 125eXX 1260LE 1289XX 128aLE 128eXX 1290LE
12b1XX 12b2LE 12b6XX 12b8LE 12bfXX 12c0LE 12c1XX 12c2LE 12c6XX 12c8LE 12d7XX 12d8LE 1311XX 1312LE
1316XX 1318LE 135bXX 135dEX 1360XX 1362ST 1363XX 1367ST 1369XX 1380LE 1390XX 13a0UP 13f6XX 13f8LO
13feXX 1401LE 166dXX 166eST 166fLE 1680SP 1681LE 169bCL 169dXX 16a0LE 16ebXX 16eeLE 16f9XX 1700LE
1712EX 1716XX 171fLE 1732EX 1735ST 1737XX 1740LE 1752EX 1754XX 1760LE 176dXX 176eLE 1771XX 1772EX
1774XX 1780LE 17b4EX 17d4ST 17d6XX 17d7LE 17d8XX 17dcLE 17ddEX 17deXX 17e0NU 17eaXX 1802SC 1803ST
1804XX 1808SC 1809ST 180aXX 180bEX 180eFO 180fEX 1810NU 181aXX 1820LE 1879XX 1880LE 1885EX 1887LE
18a9EX 18aaLE 18abXX 18b0LE 18f6XX 1900LE 191fXX 1920EX 192cXX 1930EX 193cXX 1944ST 1946NU 1950LE
196eXX 1970LE 1975XX 1980LE 19acXX 19b0LE 19caXX 19d0NU 19daXX 1a00LE 1a17EX 1a1cXX 1a20LE 1a55EX
1a5fXX 1a60EX 1a7dXX 1a7fEX 1a80NU 1a8aXX 1a90NU 1a9aXX 1aa7LE 1aa8ST 1aacXX 1ab0EX 1acfXX 1b00EX
1b05LE 1b34EX 1b45LE 1b4dXX 1b4eST 1b50NU 1b5aST 1b5cXX 1b5eST 1b60XX 1b6bEX 1b74XX 1b7dST 1b80EX
1b83LE 1ba1EX 1baeLE 1bb0NU 1bbaLE 1be6EX 1bf4XX 1c00LE 1c24EX 1c38XX 1c3bST 1c3dXX 1c40NU 1c4aXX
1c4dLE 1c50NU 1c5aLE 1c7eST 1c80LO 1c89UP 1c8aLO 1c8bXX 1c90LE 1cbbXX 1cbdLE 1cc0XX 1cd0EX 1cd3XX
1cd4EX 1ce9LE 1cedEX 1ceeLE 1cf4EX 1cf5LE 1cf7EX 1cfaLE 1cfbXX 1d00LO 1dc0EX 1e00UP 1e01LO 1e02UP
1e03LO 1e04UP 1e05LO 1e06UP 1e07LO 1e08UP 1e09LO 1e0aUP 1e0bLO 1e0cUP 1e0dLO 1e0eUP 1e0fLO 1e10UP
1e11LO 1e12UP 1e13LO 1e14UP 1e15LO 1e16UP 1e17LO 1e18UP 1e19LO 1e1aUP 1e1bLO 1e1cUP 1e1dLO 1e1eUP
1e1fLO 1e20UP 1e21LO 1e22UP 1e23LO 1e24UP 1e25LO 1e26UP 1e27LO 1e28UP 1e29LO 1e2aUP 1e2bLO 1e2cUP
1e2dLO 1e2eUP 1e2fLO 1e30UP 1e31LO 1e32UP 1e33LO 1e34UP 1e35LO 1e36UP 1e37LO 1e38UP 1e39LO 1e3aUP
1e3bLO 1e3cUP 1e3dLO 1e3eUP 1e3fLO 1e40UP 1e41LO 1e42UP 1e43LO 1e44UP 1e45LO 1e46UP 1e47LO 1e48UP
1e49LO 1e4aUP 1e4bLO 1e4cUP 1e4dLO 1e4eUP 1e4fLO 1e50UP 1e51LO 1e52UP 1e53LO 1e54UP 1e55LO 1e56UP
1e57LO 1e58UP 1e59LO 1e5aUP 1e5bLO 1e5cUP 1e5dLO 1e5eUP 1e5fLO 1e60UP 1e61LO 1e62UP 1e63LO 1e64UP
1e65LO 1e66UP 1e67LO 1e68UP 1e69LO 1e6aUP 1e6bLO 1e6cUP 1e6dLO 1e6eUP 1e6fLO 1e70UP 1e71LO 1e72UP
1e73LO 1e74UP 1e75LO 1e76UP 1e77LO 1e78UP 1e79LO 1e7aUP 1e7bLO 1e7cUP 1e7dLO 1e7eUP 1e7fLO 1e80UP
1e81LO 1e82UP 1e83LO 1e84UP 1e85LO 1e86UP 1e87LO 1e88UP 1e89LO 1e8aUP 1e8bLO 1e8cUP 1e8dLO 1e8eUP
1e8fLO 1e90UP 1e91LO 1e92UP 1e93LO 1e94UP 1e95LO 1e9eUP 1e9fLO 1ea0UP 1ea1LO 1ea2UP 1ea3LO 1ea4UP
1ea5LO 1ea6UP 1ea7LO 1ea8UP 1ea9LO 1eaaUP 1eabLO 1eacUP 1eadLO 1eaeUP 1eafLO 1eb0UP 1eb1LO 1eb2UP
1eb3LO 1eb4UP 1eb5LO 1eb6UP 1eb7LO 1eb8UP 1eb9LO 1ebaUP 1ebbLO 1ebcUP 1ebdLO 1ebeUP 1ebfLO 1ec0UP
1ec1LO 1ec2UP 1ec3LO 1ec4UP 1ec5LO 1ec6UP 1ec7LO 1ec8UP 1ec9LO 1ecaUP 1ecbLO 1eccUP 1ecdLO 1eceUP
1ecfLO 1ed0UP 1ed1LO 1ed2UP 1ed3LO 1ed4UP 1ed5LO 1ed6UP 1ed7LO 1ed8UP 1ed9LO 1edaUP 1edbLO 1edcUP
1eddLO 1edeUP 1edfLO 1ee0UP 1ee1LO 1ee2UP 1ee3LO 1ee4UP 1ee5LO 1ee6UP 1ee7LO 1ee8UP 1ee9LO 1eeaUP
1eebLO 1eecUP 1eedLO 1eeeUP 1eefLO 1ef0UP 1ef1LO 1ef2UP 1ef3LO 1ef4UP 1ef5LO 1ef6UP 1ef7LO 1ef8UP
1ef9LO 1efaUP 1efbLO 1efcUP 1efdLO 1efeUP 1effLO 1f08UP 1f10LO 1f16XX 1f18UP 1f1eXX 1f20LO 1f28UP
1f30LO 1f38UP 1f40LO 1f46XX 1f48UP 1f4eXX 1f50LO 1f58XX 1f59UP 1f5aXX 1f5bUP 1f5cXX 1f5dUP 1f5eXX
1f5fUP 1f60LO 1f68UP 1f70LO 1f7eXX 1f80LO 1f88UP 1f90LO 1f98UP 1fa0LO 1fa8UP 1fb0LO 1fb5XX 1fb6LO
1fb8UP 1fbdXX 1fbeLO 1fbfXX 1fc2LO 1fc5XX 1fc6LO 1fc8UP 1fcdXX 1fd0LO 1fd4XX 1fd6LO 1fd8UP 1fdcXX
1fe0LO 1fe8UP 1fedXX 1ff2LO 1ff5XX 1ff6LO 1ff8UP 1ffdXX 2000SP 200bFO 200cEX 200eFO 2010XX 2013SC
2015XX 2018CL 2020XX 2024AT 2025XX 2028SE 202aFO 202fSP 2030XX 2039CL 203bXX 203cST 203eXX 2045CL
2047ST 204aXX 205fSP 2060FO 2065XX 2066FO 2070XX 2071LO 2072XX 207dCL 207fLO 2080XX 208dCL 208fXX
2090LO 209dXX 20d0EX 20f1XX 2102UP 2103XX 2107UP 2108XX 210aLO 210bUP 210eLO 2110UP 2113LO 2114XX
2115UP 2116XX 2119UP 211eXX 2124UP 2125XX 2126UP 2127XX 2128UP 2129XX 212aUP 212eXX 212fLO 2130UP
2134LO 2135LE 2139LO 213aXX 213cLO 213eUP 2140XX 2145UP 2146LO 214aXX 214eLO 214fXX 2160UP 2170LO
2180LE 2183UP 2184LO 2185LE 2189XX 2308CL 230cXX 2329CL 232bXX 24b6UP 24d0LO 24eaXX 275bCL 2761XX
2768CL 2776XX 27c5CL 27c7XX 27e6CL 27f0XX 2983CL 2999XX 29d8CL 29dcXX 29fcCL 29feXX 2c00UP 2c30LO
2c60UP 2c61LO 2c62UP 2c65LO 2c67UP 2c68LO 2c69UP 2c6aLO 2c6bUP 2c6cLO 2c6dUP 2c71LO 2c72UP 2c73LO
2c75UP 2c76LO 2c7eUP 2c81LO 2c82UP 2c83LO 2c84UP 2c85LO 2c86UP 2c87LO 2c88UP 2c89LO 2c8aUP 2c8bLO
2c8cUP 2c8dLO 2c8eUP 2c8fLO 2c90UP 2c91LO 2c92UP 2c93LO 2c94UP 2c95LO 2c96UP 2c97LO 2c98UP 2c99LO
2c9aUP 2c9bLO 2c9cUP 2c9dLO 2c9eUP 2c9fLO 2ca0UP 2ca1LO 2ca2UP 2ca3LO 2ca4UP 2ca5LO 2ca6UP 2ca7LO
2ca8UP 2ca9LO 2caaUP 2cabLO 2cacUP 2cadLO 2caeUP 2cafLO 2cb0UP 2cb1LO 2cb2UP 2cb3LO 2cb4UP 2cb5LO
2cb6UP 2cb7LO 2cb8UP 2cb9LO 2cbaUP 2cbbLO 2cbcUP 2cbdLO 2cbeUP 2cbfLO 2cc0UP 2cc1LO 2cc2UP 2cc3LO
2cc4UP 2cc5LO 2cc6UP 2cc7LO 2cc8UP 2cc9LO 2ccaUP 2ccbLO 2cccUP 2ccdLO 2cceUP 2ccfLO 2cd0UP 2cd1LO
2cd2UP 2cd3LO 2cd4UP 2cd5LO 2cd6UP 2cd7LO 2cd8UP 2cd9LO 2cdaUP 2cdbLO 2cdcUP 2cddLO 2cdeUP 2cdfLO
2ce0UP 2ce1LO 2ce2UP 2ce3LO 2ce5XX 2cebUP 2cecLO 2cedUP 2ceeLO 2cefEX 2cf2UP 2cf3LO 2cf4XX 2cf9ST
2cfcXX 2d00LO 2d26XX 2d27LO 2d28XX 2d2dLO 2d2eXX 2d30LE 2d68XX 2d6fLE 2d70XX 2d7fEX 2d80LE 2d97XX
2da0LE 2da7XX 2da8LE 2dafXX 2db0LE 2db7XX 2db8LE 2dbfXX 2dc0LE 2dc7XX 2dc8LE 2dcfXX 2dd0LE 2dd7XX
2dd8LE 2ddfXX 2de0EX 2e00CL 2e0eXX 2e1cCL 2e1eXX 2e20CL 2e2aXX 2e2eST 2e2fLE 2e30XX 2e3cST 2e3dXX
2e42CL 2e43XX 2e53ST 2e55CL 2e5dXX 3000SP 3001SC 3002ST 3003XX 3005LE 3008CL 3012XX 3014CL 301cXX
301dCL 3020XX 3021LE 302aEX 3030XX 3031LE 3036XX 3038LE 303dXX 3041LE 3097XX 3099EX 309bXX 309dLE
30a0XX 30a1LE 30fbXX 30fcLE 3100XX 3105LE 3130XX 3131LE 318fXX 31a0LE 31c0XX 31f0LE 3200XX 3400LE
4dc0XX 4e00LE a48dXX a4d0LE a4feXX a4ffST a500LE a60dXX a60eST a610LE a620NU a62aLE a62cXX a640UP
a641LO a642UP a643LO a644UP a645LO a646UP a647LO a648UP a649LO a64aUP a64bLO a64cUP a64dLO a64eUP
a64fLO a650UP a651LO a652UP a653LO a654UP a655LO a656UP a657LO a658UP a659LO a65aUP a65bLO a65cUP
a65dLO a65eUP a65fLO a660UP a661LO a662UP a663LO a664UP a665LO a666UP a667LO a668UP a669LO a66aUP
a66bLO a66cUP a66dLO a66eLE a66fEX a673XX a674EX a67eXX a67fLE a680UP a681LO a682UP a683LO a684UP
a685LO a686UP a687LO a688UP a689LO a68aUP a68bLO a68cUP a68dLO a68eUP a68fLO a690UP a691LO a692UP
a693LO a694UP a695LO a696UP a697LO a698UP a699LO a69aUP a69bLO a69eEX a6a0LE a6f0EX a6f2XX a6f3ST
a6f4XX a6f7ST a6f8XX a717LE a720XX a722UP a723LO a724UP a725LO a726UP a727LO a728UP a729LO a72aUP
a72bLO a72cUP a72dLO a72eUP a72fLO a732UP a733LO a734UP a735LO a736UP a737LO a738UP a739LO a73aUP
a73bLO a73cUP a73dLO a73eUP a73fLO a740UP a741LO a742UP a743LO a744UP a745LO a746UP a747LO a748UP
a749LO a74aUP a74bLO a74cUP a74dLO a74eUP a74fLO a750UP a751LO a752UP a753LO a754UP a755LO a756UP
a757LO a758UP a759LO a75aUP a75bLO a75cUP a75dLO a75eUP a75fLO a760UP a761LO a762UP a763LO a764UP
a765LO a766UP a767LO a768UP a769LO a76aUP a76bLO a76cUP a76dLO a76eUP a76fLO a779UP a77aLO a77bUP
a77cLO a77dUP a77fLO a780UP a781LO a782UP a783LO a784UP a785LO a786UP a787LO a788LE a789XX a78bUP
a78cLO a78dUP a78eLO a78fLE a790UP a791LO a792UP a793LO a796UP a797LO a798UP a799LO a79aUP a79bLO
a79cUP a79dLO a79eUP a79fLO a7a0UP a7a1LO a7a2UP a7a3LO a7a4UP a7a5LO a7a6UP a7a7LO a7a8UP a7a9LO
a7aaUP a7afLO a7b0UP a7b5LO a7b6UP a7b7LO a7b8UP a7b9LO a7baUP a7bbLO a7bcUP a7bdLO a7beUP a7bfLO
a7c0UP a7c1LO a7c2UP a7c3LO a7c4UP a7c8LO a7c9UP a7caLO a7cbUP a7cdLO a7ceXX a7d0UP a7d1LO a7d2XX
a7d3LO a7d4XX a7d5LO a7d6UP a7d7LO a7d8UP a7d9LO a7daUP a7dbLO a7dcUP a7ddXX a7f2LO a7f5UP a7f6LO
a7f7LE a7f8LO a7fbLE a802EX a803LE a806EX a807LE a80bEX a80cLE a823EX a828XX a82cEX a82dXX a840LE
a874XX a876ST a878XX a880EX a882LE a8b4EX a8c6XX a8ceST a8d0NU a8daXX a8e0EX a8f2LE a8f8XX a8fbLE
a8fcXX a8fdLE a8ffEX a900NU a90aLE a926EX a92eXX a92fST a930LE a947EX a954XX a960LE a97dXX a980EX
a984LE a9b3EX a9c1XX a9c8ST a9caXX a9cfLE a9d0NU a9daXX a9e0LE a9e5EX a9e6LE a9f0NU a9faLE a9ffXX
aa00LE aa29EX aa37XX aa40LE aa43EX aa44LE aa4cEX aa4eXX aa50NU aa5aXX aa5dST aa60LE aa77XX aa7aLE
aa7bEX aa7eLE aab0EX aab1LE aab2EX aab5LE aab7EX aab9LE aabeEX aac0LE aac1EX aac2LE aac3XX aadbLE
aadeXX aae0LE aaebEX aaf0ST aaf2LE aaf5EX aaf7XX ab01LE ab07XX ab09LE ab0fXX ab11LE ab17XX ab20LE
ab27XX ab28LE ab2fXX ab30LO ab5bXX ab5cLO ab6aXX ab70LO abc0LE abe3EX abebST abecEX abeeXX abf0NU
abfaXX ac00LE d7a4XX d7b0LE d7c7XX d7cbLE d7fcXX f900LE fa6eXX fa70LE fadaXX fb00LO fb07XX fb13LO
fb18XX fb1dLE fb1eEX fb1fLE fb29XX fb2aLE fb37XX fb38LE fb3dXX fb3eLE fb3fXX fb40LE fb42XX fb43LE
fb45XX fb46LE fbb2XX fbd3LE fd3eCL fd40XX fd50LE fd90XX fd92LE fdc8XX fdf0LE fdfcXX fe00EX fe10SC
fe12ST fe13SC fe14XX fe15ST fe17CL fe19XX fe20EX fe30XX fe31SC fe33XX fe35CL fe45XX fe47CL fe49XX
fe50SC fe52AT fe53XX fe55SC fe56ST fe58SC fe59CL fe5fXX fe63SC fe64XX fe70LE fe75XX fe76LE fefdXX
feffFO ff00XX ff01ST ff02XX ff08CL ff0aXX ff0cSC ff0eAT ff0fXX ff10NU ff1aSC ff1bXX ff1fST ff20XX
ff21UP ff3bCL ff3cXX ff3dCL ff3eXX ff41LO ff5bCL ff5cXX ff5dCL ff5eXX ff5fCL ff61ST ff62CL ff64SC
ff65XX ff66LE ff9eEX ffa0LE ffbfXX ffc2LE ffc8XX ffcaLE ffd0XX ffd2LE ffd8XX ffdaLE ffddXX fff9FO
fffcXX 10000LE 1000cXX 1000dLE 10027XX 10028LE 1003bXX 1003cLE 1003eXX 1003fLE 1004eXX 10050LE
1005eXX 10080LE 100fbXX 10140LE 10175XX 101fdEX 101feXX 10280LE 1029dXX 102a0LE 102d1XX 102e0EX
102e1XX 10300LE 10320XX 1032dLE 1034bXX 10350LE 10376EX 1037bXX 10380LE 1039eXX 103a0LE 103c4XX
103c8LE 103d0XX 103d1LE 103d6XX 10400UP 10428LO 10450LE 1049eXX 104a0NU 104aaXX 104b0UP 104d4XX
104d8LO 104fcXX 10500LE 10528XX 10530LE 10564XX 10570UP 1057bXX 1057cUP 1058bXX 1058cUP 10593XX
10594UP 10596XX 10597LO 105a2XX 105a3LO 105b2XX 105b3LO 105baXX 105bbLO 105bdXX 105c0LE 105f4XX
10600LE 10737XX 10740LE 10756XX 10760LE 10768XX 10780LO 10781LE 10783LO 10786XX 10787LO 107b1XX
107b2LO 107bbXX 10800LE 10806XX 10808LE 10809XX 1080aLE 10836XX 10837LE 10839XX 1083cLE 1083dXX
1083fLE 10856XX 10860LE 10877XX 10880LE 1089fXX 108e0LE 108f3XX 108f4LE 108f6XX 10900LE 10916XX
10920LE 1093aXX 10980LE 109b8XX 109beLE 109c0XX 10a00LE 10a01EX 10a04XX 10a05EX 10a07XX 10a0cEX
10a10LE 10a14XX 10a15LE 10a18XX 10a19LE 10a36XX 10a38EX 10a3bXX 10a3fEX 10a40XX 10a56ST 10a58XX
10a60LE 10a7dXX 10a80LE 10a9dXX 10ac0LE 10ac8XX 10ac9LE 10ae5EX 10ae7XX 10b00LE 10b36XX 10b40LE
10b56XX 10b60LE 10b73XX 10b80LE 10b92XX 10c00LE 10c49XX 10c80UP 10cb3XX 10cc0LO 10cf3XX 10d00LE
10d24EX 10d28XX 10d30NU 10d3aXX 10d40NU 10d4aLE 10d50UP 10d66XX 10d69EX 10d6eXX 10d6fLE 10d70LO
10d86XX 10e80LE 10eaaXX 10eabEX 10eadXX 10eb0LE 10eb2XX 10ec2LE 10ec5XX 10efcEX 10f00LE 10f1dXX
10f27LE 10f28XX 10f30LE 10f46EX 10f51XX 10f55ST 10f5aXX 10f70LE 10f82EX 10f86ST 10f8aXX 10fb0LE
10fc5XX 10fe0LE 10ff7XX 11000EX 11003LE 11038EX 11047ST 11049XX 11066NU 11070EX 11071LE 11073EX
11075LE 11076XX 1107fEX 11083LE 110b0EX 110bbXX 110bdFO 110beST 110c2EX 110c3XX 110cdFO 110ceXX
110d0LE 110e9XX 110f0NU 110faXX 11100EX 11103LE 11127EX 11135XX 11136NU 11140XX 11141ST 11144LE
11145EX 11147LE 11148XX 11150LE 11173EX 11174XX 11176LE 11177XX 11180EX 11183LE 111b3EX 111c1LE
111c5ST 111c7XX 111c9EX 111cdST 111ceEX 111d0NU 111daLE 111dbXX 111dcLE 111ddXX 111deST 111e0XX
11200LE 11212XX 11213LE 1122cEX 11238ST 1123aXX 1123bST 1123dXX 1123eEX 1123fLE 11241EX 11242XX
11280LE 11287XX 11288LE 11289XX 1128aLE 1128eXX 1128fLE 1129eXX 1129fLE 112a9ST 112aaXX 112b0LE
112dfEX 112ebXX 112f0NU 112faXX 11300EX 11304XX 11305LE 1130dXX 1130fLE 11311XX 11313LE 11329XX
1132aLE 11331XX 11332LE 11334XX 11335LE 1133aXX 1133bEX 1133dLE 1133eEX 11345XX 11347EX 11349XX
1134bEX 1134eXX 11350LE 11351XX 11357EX 11358XX 1135dLE 11362EX 11364XX 11366EX 1136dXX 11370EX
11375XX 11380LE 1138aXX 1138bLE 1138cXX 1138eLE 1138fXX 11390LE 113b6XX 113b7LE 113b8EX 113c1XX
113c2EX 113c3XX 113c5EX 113c6XX 113c7EX 113cbXX 113ccEX 113d1LE 113d2EX 113d3LE 113d4ST 113d6XX
113e1EX 113e3XX 11400LE 11435EX 11447LE 1144bST 1144dXX 11450NU 1145aXX 1145eEX 1145fLE 11462XX
11480LE 114b0EX 114c4LE 114c6XX 114c7LE 114c8XX 114d0NU 114daXX 11580LE 115afEX 115b6XX 115b8EX
115c1XX 115c2ST 115c4XX 115c9ST 115d8LE 115dcEX 115deXX 11600LE 11630EX 11641ST 11643XX 11644LE
11645XX 11650NU 1165aXX 11680LE 116abEX 116b8LE 116b9XX 116c0NU 116caXX 116d0NU 116e4XX 11700LE
1171bXX 1171dEX 1172cXX 11730NU 1173aXX 1173cST 1173fXX 11740LE 11747XX 11800LE 1182cEX 1183bXX
118a0UP 118c0LO 118e0NU 118eaXX 118ffLE 11907XX 11909LE 1190aXX 1190cLE 11914XX 11915LE 11917XX
11918LE 11930EX 11936XX 11937EX 11939XX 1193bEX 1193fLE 11940EX 11941LE 11942EX 11944ST 11945XX
11946ST 11947XX 11950NU 1195aXX 119a0LE 119a8XX 119aaLE 119d1EX 119d8XX 119daEX 119e1LE 119e2XX
119e3LE 119e4EX 119e5XX 11a00LE 11a01EX 11a0bLE 11a33EX 11a3aLE 11a3bEX 11a3fXX 11a42ST 11a44XX
11a47EX 11a48XX 11a50LE 11a51EX 11a5cLE 11a8aEX 11a9aXX 11a9bST 11a9dLE 11a9eXX 11ab0LE 11af9XX
11bc0LE 11be1XX 11bf0NU 11bfaXX 11c00LE 11c09XX 11c0aLE 11c2fEX 11c37XX 11c38EX 11c40LE 11c41ST
11c43XX 11c50NU 11c5aXX 11c72LE 11c90XX 11c92EX 11ca8XX 11ca9EX 11cb7XX 11d00LE 11d07XX 11d08LE
11d0aXX 11d0bLE 11d31EX 11d37XX 11d3aEX 11d3bXX 11d3cEX 11d3eXX 11d3fEX 11d46LE 11d47EX 11d48XX
11d50NU 11d5aXX 11d60LE 11d66XX 11d67LE 11d69XX 11d6aLE 11d8aEX 11d8fXX 11d90EX 11d92XX 11d93EX
11d98LE 11d99XX 11da0NU 11daaXX 11ee0LE 11ef3EX 11ef7ST 11ef9XX 11f00EX 11f02LE 11f03EX 11f04LE
11f11XX 11f12LE 11f34EX 11f3bXX 11f3eEX 11f43ST 11f45XX 11f50NU 11f5aEX 11f5bXX 11fb0LE 11fb1XX
12000LE 1239aXX 12400LE 1246fXX 12480LE 12544XX 12f90LE 12ff1XX 13000LE 13430FO 13440EX 13441LE
13447EX 13456XX 13460LE 143fbXX 14400LE 14647XX 16100LE 1611eEX 16130NU 1613aXX 16800LE 16a39XX
16a40LE 16a5fXX 16a60NU 16a6aXX 16a6eST 16a70LE 16abfXX 16ac0NU 16acaXX 16ad0LE 16aeeXX 16af0EX
16af5ST 16af6XX 16b00LE 16b30EX 16b37ST 16b39XX 16b40LE 16b44ST 16b45XX 16b50NU 16b5aXX 16b63LE
16b78XX 16b7dLE 16b90XX 16d40LE 16d6dXX 16d6eST 16d70NU 16d7aXX 16e40UP 16e60LO 16e80XX 16e98ST
16e99XX 16f00LE 16f4bXX 16f4fEX 16f50LE 16f51EX 16f88XX 16f8fEX 16f93LE 16fa0XX 16fe0LE 16fe2XX
16fe3LE 16fe4EX 16fe5XX 16ff0EX 16ff2XX 17000LE 187f8XX 18800LE 18cd6XX 18cffLE 18d09XX 1aff0LE
1aff4XX 1aff5LE 1affcXX 1affdLE 1afffXX 1b000LE 1b123XX 1b132LE 1b133XX 1b150LE 1b153XX 1b155LE
1b156XX 1b164LE 1b168XX 1b170LE 1b2fcXX 1bc00LE 1bc6bXX 1bc70LE 1bc7dXX 1bc80LE 1bc89XX 1bc90LE
1bc9aXX 1bc9dEX 1bc9fST 1bca0FO 1bca4XX 1ccf0NU 1ccfaXX 1cf00EX 1cf2eXX 1cf30EX 1cf47XX 1d165EX
1d16aXX 1d16dEX 1d173FO 1d17bEX 1d183XX 1d185EX 1d18cXX 1d1aaEX 1d1aeXX 1d242EX 1d245XX 1d400UP
1d41aLO 1d434UP 1d44eLO 1d455XX 1d456LO 1d468UP 1d482LO 1d49cUP 1d49dXX 1d49eUP 1d4a0XX 1d4a2UP
1d4a3XX 1d4a5UP 1d4a7XX 1d4a9UP 1d4adXX 1d4aeUP 1d4b6LO 1d4baXX 1d4bbLO 1d4bcXX 1d4bdLO 1d4c4XX
1d4c5LO 1d4d0UP 1d4eaLO 1d504UP 1d506XX 1d507UP 1d50bXX 1d50dUP 1d515XX 1d516UP 1d51dXX 1d51eLO
1d538UP 1d53aXX 1d53bUP 1d53fXX 1d540UP 1d545XX 1d546UP 1d547XX 1d54aUP 1d551XX 1d552LO 1d56cUP
1d586LO 1d5a0UP 1d5baLO 1d5d4UP 1d5eeLO 1d608UP 1d622LO 1d63cUP 1d656LO 1d670UP 1d68aLO 1d6a6XX
1d6a8UP 1d6c1XX 1d6c2LO 1d6dbXX 1d6dcLO 1d6e2UP 1d6fbXX 1d6fcLO 1d715XX 1d716LO 1d71cUP 1d735XX
1d736LO 1d74fXX 1d750LO 1d756UP 1d76fXX 1d770LO 1d789XX 1d78aLO 1d790UP 1d7a9XX 1d7aaLO 1d7c3XX
1d7c4LO 1d7caUP 1d7cbLO 1d7ccXX 1d7ceNU 1d800XX 1da00EX 1da37XX 1da3bEX 1da6dXX 1da75EX 1da76XX
1da84EX 1da85XX 1da88ST 1da89XX 1da9bEX 1daa0XX 1daa1EX 1dab0XX 1df00LO 1df0aLE 1df0bLO 1df1fXX
1df25LO 1df2bXX 1e000EX 1e007XX 1e008EX 1e019XX 1e01bEX 1e022XX 1e023EX 1e025XX 1e026EX 1e02bXX
1e030LO 1e06eXX 1e08fEX 1e090XX 1e100LE 1e12dXX 1e130EX 1e137LE 1e13eXX 1e140NU 1e14aXX 1e14eLE
1e14fXX 1e290LE 1e2aeEX 1e2afXX 1e2c0LE 1e2ecEX 1e2f0NU 1e2faXX 1e4d0LE 1e4ecEX 1e4f0NU 1e4faXX
1e5d0LE 1e5eeEX 1e5f0LE 1e5f1NU 1e5fbXX 1e7e0LE 1e7e7XX 1e7e8LE 1e7ecXX 1e7edLE 1e7efXX 1e7f0LE
1e7ffXX 1e800LE 1e8c5XX 1e8d0EX 1e8d7XX 1e900UP 1e922LO 1e944EX 1e94bLE 1e94cXX 1e950NU 1e95aXX
1ee00LE 1ee04XX 1ee05LE 1ee20XX 1ee21LE 1ee23XX 1ee24LE 1ee25XX 1ee27LE 1ee28XX 1ee29LE 1ee33XX
1ee34LE 1ee38XX 1ee39LE 1ee3aXX 1ee3bLE 1ee3cXX 1ee42LE 1ee43XX 1ee47LE 1ee48XX 1ee49LE 1ee4aXX
1ee4bLE 1ee4cXX 1ee4dLE 1ee50XX 1ee51LE 1ee53XX 1ee54LE 1ee55XX 1ee57LE 1ee58XX 1ee59LE 1ee5aXX
1ee5bLE 1ee5cXX 1ee5dLE 1ee5eXX 1ee5fLE 1ee60XX 1ee61LE 1ee63XX 1ee64LE 1ee65XX 1ee67LE 1ee6bXX
1ee6cLE 1ee73XX 1ee74LE 1ee78XX 1ee79LE 1ee7dXX 1ee7eLE 1ee7fXX 1ee80LE 1ee8aXX 1ee8bLE 1ee9cXX
1eea1LE 1eea4XX 1eea5LE 1eeaaXX 1eeabLE 1eebcXX 1f130UP 1f14aXX 1f150UP 1f16aXX 1f170UP 1f18aXX
1f676CL 1f679XX 1fbf0NU 1fbfaXX 20000LE 2a6e0XX 2a700LE 2b73aXX 2b740LE 2b81eXX 2b820LE 2cea2XX
2ceb0LE 2ebe1XX 2ebf0LE 2ee5eXX 2f800LE 2fa1eXX 30000LE 3134bXX 31350LE 323b0XX e0001FO e0002XX
e0020EX e0080XX e0100EX e01f0XX"

/-- The grapheme cluster break class of a character. -/
def graphemeBreak (c : Char) : String :=
  match graphemeBreaks.classOf c.toNat with
  | "LV" => if (c.toNat - 0xac00) % 28 = 0 then "LV" else "LVT"
  | other => other

/-- The word break class of a character. -/
def wordBreak (c : Char) : String := wordBreaks.classOf c.toNat

/-- The sentence break class of a character. -/
def sentenceBreak (c : Char) : String := sentenceBreaks.classOf c.toNat

/-- The names of the grapheme cluster break classes that have characters, the one used
in the table first. -/
def graphemeBreakNames : List (List String) := [
  ["CR"], ["CN", "Control"], ["EX", "Extend"], ["L"], ["LF"], ["LV"], ["LVT"], ["PP", "Prepend"],
  ["RI", "Regional_Indicator"], ["SM", "SpacingMark"], ["T"], ["V"], ["ZWJ"]]

/-- The names of the word break classes that have characters, the one used in the
table first. -/
def wordBreakNames : List (List String) := [
  ["LE", "ALetter"], ["CR"], ["DQ", "Double_Quote"], ["Extend"], ["EX", "ExtendNumLet"],
  ["FO", "Format"], ["HL", "Hebrew_Letter"], ["KA", "Katakana"], ["LF"], ["ML", "MidLetter"],
  ["MN", "MidNum"], ["MB", "MidNumLet"], ["NL", "Newline"], ["NU", "Numeric"],
  ["RI", "Regional_Indicator"], ["SQ", "Single_Quote"], ["WSegSpace"], ["ZWJ"]]

/-- The names of the sentence break classes that have characters, the one used in the
table first. -/
def sentenceBreakNames : List (List String) := [
  ["AT", "ATerm"], ["CR"], ["CL", "Close"], ["EX", "Extend"], ["FO", "Format"], ["LF"],
  ["LO", "Lower"], ["NU", "Numeric"], ["LE", "OLetter"], ["SC", "SContinue"], ["ST", "STerm"],
  ["SE", "Sep"], ["SP", "Sp"], ["UP", "Upper"]]

end StreamNames.Unicode
